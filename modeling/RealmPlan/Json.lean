import RealmPlan.Binary64
import RealmPlan.Dict

namespace RealmPlan

-- A value of JSON. An object lists its fields in key order, each key once; whole numbers of a
-- machine word keep their sign, every other number is a binary one.
inductive Json where
  | null
  | bool (value : Bool)
  | int (value : Int)
  | float (value : Binary64)
  | text (value : String)
  | list (items : List Json)
  | object (fields : List (String × Json))
deriving Inhabited, BEq

namespace Json

def ofNat (n : Nat) : Json := .int n

def optional {α : Type} (write : α → Json) : Option α → Json
  | none => .null
  | some value => write value

def texts (values : List String) : Json := .list (values.map .text)

-- A field that is left out when it has no value.
def field? {α : Type} (name : String) (write : α → Json) : Option α → List (String × Json)
  | none => []
  | some value => [(name, write value)]

-- An object in key order; a repeated key keeps its last value.
def ofEntries (entries : List (String × Json)) : Json := .object (Dict.ofList entries).entries

def isList : Json → Bool
  | .list _ => true
  | _ => false

def get? (name : String) : Json → Option Json
  | .object fields => fields.lookup name
  | _ => none

end Json
end RealmPlan
