import RealmPlan.Document
import RealmPlan.Word

namespace RealmPlan.Json

def found : Json → Found
  | .null => .null
  | .bool value => .bool value
  | .int value => .int value
  | .float value => .float value
  | .text value => .text value
  | .list _ => .sequence
  | .object _ => .map

def wrong {α : Type} (want : String) (value : Json) : Reading α := .error (.wrongType value.found want)

-- A whole number past 64 bits has the right type and the wrong value.
def readInteger : Json → Reading Int
  | .int value =>
    if Word.fitsSigned value then .ok value else .error (.wrongValue (.int value) "i64")
  | value => wrong "i64" value

-- A case without content is its name, or an object that gives the name no value.
def readVariant (known : List String) : Json → Reading String
  | .text name => if name ∈ known then .ok name else .error (.unknownVariant name known)
  | .object [(name, content)] =>
    if name ∈ known then
      match content with
      | .null => .ok name
      | content => wrong "unit" content
    else .error (.unknownVariant name known)
  | .object _ => .error .severalVariants
  | value => wrong "string or map" value

instance : Document Json Reading where
  text want
    | .text value => .ok value
    | value => wrong want value
  flag
    | .bool value => .ok value
    | value => wrong "a boolean" value
  integer := readInteger
  given?
    | .null => .ok none
    | value => .ok (some value)
  items
    | .list items => .ok items
    | value => wrong "a sequence" value
  entries want
    | .object fields => .ok fields
    | value => wrong want value
  positional?
    | .list items => some items
    | _ => none
  variant := readVariant
  value := .ok

end RealmPlan.Json
