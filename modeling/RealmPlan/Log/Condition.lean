import RealmPlan.Binary64
import RealmPlan.Log
import RealmPlan.Log.Pattern.Reader

namespace RealmPlan.Log

-- The value that a field of a span has to have. Only texts and counts occur; the other kinds can be
-- written and never hold.
inductive Wanted where
  | flag (value : Bool)
  | number (value : Binary64)
  | infinite (negative : Bool)
  | notNumber
  | count (value : Nat)
  | integer (value : Int)
  | like (source : String) (pattern : Pattern)
deriving Inhabited

namespace Wanted

def float? (s : String) : Option Wanted :=
  let (negative, word) := Binary64.sign s.toList
  match (String.ofList word).toLower with
  | "inf" => some (.infinite negative)
  | "infinity" => some (.infinite negative)
  | "nan" => some .notNumber
  | _ => (Binary64.numeral? s.toList).map fun (negative, digits, power) =>
    match Binary64.nearest? negative digits power with
    | some value => .number value
    | none => .infinite negative

-- A word with a sign.
def integer? (s : String) : Option Int :=
  let magnitude := match s.toList with
    | '-' :: rest => (Text.natural? rest).map fun n => -(n : Int)
    | cs => (Text.word64? (String.ofList cs)).map Int.ofNat
  magnitude.filter Word.fitsSigned

-- A value is read as the narrowest kind that it can be; what is no number is a pattern.
def parse? (s : String) : Option Wanted :=
  if s == "true" then some (.flag true)
  else if s == "false" then some (.flag false)
  else match Text.word64? s, integer? s, float? s with
    | some n, _, _ => some (.count n)
    | _, some n, _ => some (.integer n)
    | _, _, some value => some value
    | _, _, _ => (Pattern.parse? s).map (.like s)

def text : Wanted → String
  | flag value => toString value
  | number value => value.positional
  | infinite negative => if negative then "-inf" else "inf"
  | notNumber => "NaN"
  | count value => toString value
  | integer value => toString value
  | like source _ => source

def allows : Wanted → FieldValue → Bool
  | like _ pattern, .quoted value => pattern.fits value
  | like _ pattern, .plain value => pattern.fits value
  | count wanted, .count value => value == wanted
  | _, _ => false

def rank : Wanted → Nat
  | flag _ => 0
  | number _ => 1
  | infinite _ => 1
  | notNumber => 2
  | count _ => 3
  | integer _ => 4
  | like _ _ => 5

-- The order of the values, not of their bits: both zeros are equal.
def compareNumbers (a b : Binary64) : Ordering :=
  let signed (x : Binary64) (other : Nat) : Int :=
    let magnitude : Int := x.ratio.1 * other
    if x.negative then -magnitude else magnitude
  compare (signed a b.ratio.2) (signed b a.ratio.2)

def order (a b : Wanted) : Ordering :=
  match a, b with
  | flag a, flag b => compare a b
  | number a, number b => compareNumbers a b
  | infinite a, infinite b => compare b a
  | infinite negative, number _ => if negative then .lt else .gt
  | number _, infinite negative => if negative then .gt else .lt
  | count a, count b => compare a b
  | integer a, integer b => compare a b
  | like a _, like b _ => compare a b
  | a, b => compare a.rank b.rank

end Wanted

-- A field that a span or an event has to have, and perhaps what its value has to be.
structure Condition where
  field : String
  wanted : Option Wanted := none
deriving Inhabited

namespace Condition

-- What stands behind a second sign does not count.
def parse? (s : String) : Option Condition :=
  match s.splitOn "=" with
  | [] => none
  | [field] => if field.isEmpty then none else some { field }
  | field :: value :: _ => (Wanted.parse? value).map fun wanted => { field, wanted := some wanted }

def text (condition : Condition) : String :=
  match condition.wanted with
  | some wanted => condition.field ++ "=" ++ wanted.text
  | none => condition.field

def holds (condition : Condition) (fields : List (String × FieldValue)) : Bool :=
  match fields.lookup condition.field, condition.wanted with
  | some value, some wanted => wanted.allows value
  | some _, none => true
  | none, _ => false

-- A value is more than a field alone.
def order (a b : Condition) : Ordering :=
  match a.wanted, b.wanted with
  | some _, none => .gt
  | none, some _ => .lt
  | none, none => compare a.field b.field
  | some wanted, some other => (compare a.field b.field).then (wanted.order other)

end Condition
end RealmPlan.Log
