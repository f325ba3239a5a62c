import RealmPlan.Base64
import RealmPlan.Binary64
import RealmPlan.Instant
import RealmPlan.Text.Quoted

namespace RealmPlan

-- What stands where something else was wanted.
inductive Found where
  | null
  | bool (value : Bool)
  | int (value : Int)
  | float (value : Binary64)
  | text (value : String)
  | sequence
  | map
deriving DecidableEq

def Found.describe : Found → String
  | .null => "null"
  | .bool value => "boolean `" ++ toString value ++ "`"
  | .int value => "integer `" ++ toString value ++ "`"
  | .float value => "floating point `" ++ value.text ++ "`"
  | .text value => "string " ++ Text.quote value
  | .sequence => "sequence"
  | .map => "map"

-- Why a document does not hold the record that was to be read from it.
inductive Mismatch where
  | wrongType (found : Found) (want : String)
  | wrongValue (found : Found) (want : String)
  | missingField (name : String)
  | repeatedField (name : String)
  | tooShort (length : Nat) (record : String) (fields : Nat)
  | tooLong (length : Nat)
  | unknownVariant (name : String) (known : List String)
  | severalVariants
  -- Collections inside of each other, more than a reader follows.
  | tooDeep
  -- Aliases that stand for more than a document of this length may hold.
  | tooManyAliases
  | bytes (fault : Base64.Fault)
  | instant (fault : Instant.Fault)
deriving DecidableEq

def Mismatch.message : Mismatch → String
  | .wrongType found want => "invalid type: " ++ found.describe ++ ", expected " ++ want
  | .wrongValue found want => "invalid value: " ++ found.describe ++ ", expected " ++ want
  | .missingField name => "missing field `" ++ name ++ "`"
  | .repeatedField name => "duplicate field `" ++ name ++ "`"
  | .tooShort length record fields =>
    s!"invalid length {length}, expected struct {record} with {fields} elements"
  | .tooLong length => s!"invalid length {length}, expected fewer elements in array"
  | .unknownVariant name known =>
    "unknown variant `" ++ name ++ "`, expected one of " ++
      ", ".intercalate (known.map fun word => "`" ++ word ++ "`")
  | .severalVariants => "invalid value: map, expected map with a single key"
  | .tooDeep => "recursion limit exceeded"
  | .tooManyAliases => "repetition limit exceeded"
  | .bytes fault => fault.message
  | .instant fault => fault.message

abbrev Reading (α : Type) := Except Mismatch α

end RealmPlan
