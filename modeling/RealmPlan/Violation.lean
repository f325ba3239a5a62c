import RealmPlan.Resource
import RealmPlan.Text.Blank

namespace RealmPlan

-- Why a resource must not be planned: planning relies on unique names and ids of roles.
inductive Violation where
  | emptyClientId
  | emptyRealm
  | emptyRoleName (index : Nat)
  | duplicateRoleName (name : String)
  | duplicateRoleId (id first second : String)
  | tooManyRoles (count max : Nat)
deriving DecidableEq, Repr

namespace Violation

def message : Violation → String
  | emptyClientId => "spec.client.clientId must not be empty"
  | emptyRealm => "spec.realm must not be empty"
  | emptyRoleName index => s!"role at index {index} has an empty name"
  | duplicateRoleName name => "role name '" ++ name ++ "' is declared more than once"
  | duplicateRoleId id first second =>
    "role id '" ++ id ++ "' is claimed by both '" ++ first ++ "' and '" ++ second ++ "'"
  | tooManyRoles count max => s!"{count} roles declared, at most {max} allowed"

-- A role is held against the roles that are declared before it.
def ofRole? (earlier : List Role) (role : Role) : Option Violation :=
  if Text.allBlank role.name then some (.emptyRoleName earlier.length)
  else if earlier.any (·.name == role.name) then some (.duplicateRoleName role.name)
  else if role.hasId then
    (earlier.find? (·.id == role.id)).map fun first => .duplicateRoleId role.id first.name role.name
  else none

def ofRoles? (earlier : List Role) : List Role → Option Violation
  | [] => none
  | role :: rest => (ofRole? earlier role).or (ofRoles? (earlier ++ [role]) rest)

-- The first violation, the client and the realm before the roles.
def first? (maxRoles : Nat) (resource : Resource) : Option Violation :=
  let roles := resource.spec.roles
  if Text.allBlank resource.clientId then some .emptyClientId
  else if Text.allBlank resource.spec.realm then some .emptyRealm
  else if maxRoles < roles.length then some (.tooManyRoles roles.length maxRoles)
  else ofRoles? [] roles

end Violation
end RealmPlan
