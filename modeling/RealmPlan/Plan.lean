import RealmPlan.Action

namespace RealmPlan

-- Actions in the order in which they are to be applied.
abbrev Plan := List Action

-- A line of a plan as it is shown.
structure Plan.Entry where
  kind : Operation.Kind
  target : String
  message : String
deriving DecidableEq, Repr

structure Plan.Summary where
  pings : Nat
  creates : Nat
  updates : Nat
  deletes : Nat
  -- Also counted among the updates.
  renames : Nat
deriving DecidableEq, Repr

def Plan.Summary.text (summary : Plan.Summary) : String :=
  let { creates, updates, renames, deletes, .. } := summary
  s!"{creates} to create, {updates} to update ({renames} renames), {deletes} to delete"

-- What an action does to what; two plans with equal sorted keys do the same in some order.
abbrev Plan.Key := Operation.Kind × String

def Plan.Key.le (a b : Plan.Key) : Bool :=
  a.1.rank < b.1.rank || (a.1 == b.1 && a.2 ≤ b.2)

namespace Plan

def withEffect (plan : Plan) (effect : Effect) : Nat := plan.countP fun action => action.effect == effect

def summary (plan : Plan) : Summary where
  pings := withEffect plan .check
  creates := withEffect plan .create
  updates := withEffect plan .update
  deletes := withEffect plan .delete
  renames := plan.countP Action.isRename

def ofKind (plan : Plan) (kind : Operation.Kind) : Plan := plan.filter fun action => action.kind == kind

def keys (plan : Plan) : List Key :=
  (plan.map fun action => (action.kind, action.target)).mergeSort Key.le

def entries (plan : Plan) : List Entry :=
  plan.map fun action => { kind := action.kind, target := action.target, message := action.message }

end Plan
end RealmPlan
