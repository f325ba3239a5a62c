namespace RealmPlan

inductive Phase where
  -- Every planned action was applied.
  | reconciled
  -- The realm answered, and an action failed or the resource is invalid.
  | failing
  -- The availability check failed and nothing was applied.
  | unavailable
deriving DecidableEq, Repr, Inhabited

namespace Phase

def all : List Phase := [reconciled, failing, unavailable]

def name : Phase → String
  | reconciled => "Reconciled"
  | failing => "Failing"
  | unavailable => "Unavailable"

def word : Phase → String
  | reconciled => "reconciled"
  | failing => "failing"
  | unavailable => "unavailable"

end Phase

-- What a resource publishes about its last pass.
structure Status where
  phase : Option Phase := none
  message : Option String := none
  ready : Bool := false
  secretName : Option String := none
deriving DecidableEq, Inhabited

end RealmPlan
