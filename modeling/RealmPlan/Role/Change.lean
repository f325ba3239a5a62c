import RealmPlan.Role.Index

namespace RealmPlan.Role

-- What becomes of a role.
inductive Change where
  -- It is observed and nothing declared denotes it. A declaration that takes its name under
  -- another id does not save it.
  | remove (observed : Role)
  -- The declared id is observed, perhaps under another name.
  | update (declared observed : Role)
  -- The declared id is not observed, but an observed role without id has the name.
  | adopt (declared : Role)
  -- Declared without id, and observed under its name.
  | refresh (declared : Role)
  -- As `refresh`, but a rename has taken the observed role away.
  | recreate (declared : Role)
  | create (declared : Role)
deriving DecidableEq

namespace Change

-- Of several observed roles with one id the last one stands for it.
def pinned (observed : List Role) (role : Role) : Change :=
  match observed.reverse.find? fun old => old.id == role.id with
  | some old => .update role old
  | none => .adopt role

-- The name that a rename leaves.
def vacates? : Change → Option String
  | .update role old => if role.name = old.name then none else some old.name
  | _ => none

def named (vacated : List String) (role : Role) : Change :=
  if role.name ∈ vacated then .recreate role else .refresh role

-- All renames are known before a name decides, so the order of the declarations does not matter.
def all (declared observed : List Role) : List Change :=
  let (surplus, _) := split observed declared
  let (missing, known) := split declared observed
  let (withId, withoutId) := known.partition (·.hasId)
  let updates := withId.map (pinned observed)
  let vacated := updates.filterMap vacates?
  surplus.map .remove ++ updates ++ withoutId.map (named vacated) ++ missing.map .create

-- What is worth a remark in the log.
def note? : Change → Option String
  | .adopt role =>
    some ("Role '" ++ role.name ++ "' has id '" ++ role.id ++ "' unknown to Keycloak but matched by name")
  | .update role old =>
    if role.name = old.name then none else some ("Role '" ++ old.name ++ "' renamed to '" ++ role.name ++ "'")
  | .recreate role =>
    some ("Role name '" ++ role.name ++ "' was vacated by a rename, creating a new role")
  | _ => none

end Change
end RealmPlan.Role
