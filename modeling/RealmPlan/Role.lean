import RealmPlan.Dict

namespace RealmPlan

-- A role of a client. An observed role carries the id that the realm gave it; a declared one may
-- leave the id empty and is then known by its name alone.
structure Role where
  id : String := ""
  name : String
  description : Option String := none
  composite : Bool := false
  clientRole : Bool := false
  containerId : Option String := none
  attributes : Dict (List String) := .empty
deriving DecidableEq, Inhabited

namespace Role

def named (name : String) : Role := { name }

def withId (id name : String) : Role := { id, name }

def hasId (role : Role) : Bool := !role.id.isEmpty

-- Two ids decide alone, so a renamed role stays the same role; with fewer ids the names decide.
def denotesSame (a b : Role) : Bool :=
  if a.hasId && b.hasId then a.id == b.id else a.name == b.name

def anyDenotesSame (roles : List Role) (role : Role) : Bool := roles.any (·.denotesSame role)

end Role
end RealmPlan
