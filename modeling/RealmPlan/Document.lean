import RealmPlan.Dict
import RealmPlan.Json
import RealmPlan.Mismatch

namespace RealmPlan

-- A value that records are read from. Formats differ in what they take for a text, for nothing and
-- for a record; a reader asks for what it wants and leaves that to the format. What a format keeps
-- count of while it is read is its own affair too, so readings are made in a monad of the format's.
class Document (δ : Type) (m : outParam (Type → Type)) where
  text : (want : String) → δ → m String
  flag : δ → m Bool
  -- A whole number of 64 bits with a sign.
  integer : δ → m Int
  -- Nothing, or the value itself.
  given? : δ → m (Option δ)
  items : δ → m (List δ)
  entries : (want : String) → δ → m (List (String × δ))
  -- The values of a record that is written as a list, field by field.
  positional? : δ → Option (List δ)
  -- The name of one case of an enumeration.
  variant : (known : List String) → δ → m String
  -- The value as it stands.
  value : δ → m Json

namespace Document
variable {δ : Type} {m : Type → Type} [Monad m] [MonadExcept Mismatch m] [Document δ m] {α : Type}

def string (v : δ) : m String := text "a string" v

def strings (v : δ) : m (List String) := do (← items v).mapM string

def optional (read : δ → m α) (v : δ) : m (Option α) := do
  match ← given? v with
  | none => return none
  | some v => return some (← read v)

def list (read : δ → m α) (v : δ) : m (List α) := do (← items v).mapM read

-- The last of several values of one key stays.
def dict (read : δ → m α) (v : δ) : m (Dict α) := do
  let rows ← (← entries "a map" v).mapM fun (key, value) => do return (key, ← read value)
  return Dict.ofList rows

def bytes (v : δ) : m (List UInt8) := do
  match ← given? v with
  | none => return []
  | some v => MonadExcept.ofExcept ((Base64.decode (← text "a base64-encoded string" v)).mapError Mismatch.bytes)

def instant (v : δ) : m Instant := do
  let written ← text "an RFC 3339 formatted date and time string" v
  MonadExcept.ofExcept ((Instant.parse written).mapError Mismatch.instant)

-- One field of a record that may stand once.
def once (name : String) (old : Option α) (read : δ → m α) (v : δ) : m (Option α) :=
  match old with
  | some _ => throw (.repeatedField name)
  | none => some <$> read v

def required (name : String) : Option α → m α
  | some value => pure value
  | none => throw (.missingField name)

-- Fields are taken as they come, so the first bad one decides; what is missing is seen afterwards.
def fields {σ : Type} (want : String) (start : σ) (take : σ → String → δ → m σ) (v : δ) : m σ := do
  (← entries want v).foldlM (fun state (name, value) => take state name value) start

-- A record in list form: the place of the next field, and the values that are left.
structure Row (δ : Type) where
  place : Nat
  rest : List δ

def Row.next? (row : Row δ) (read : δ → m α) : m (Option α × Row δ) :=
  match row.rest with
  | [] => return (none, ⟨row.place + 1, []⟩)
  | v :: rest => do return (some (← read v), ⟨row.place + 1, rest⟩)

-- The record is too short where a value without a default is wanted and none is left.
def Row.next (row : Row δ) (record : String) (size : Nat) (read : δ → m α) : m (α × Row δ) := do
  match ← row.next? read with
  | (some value, later) => return (value, later)
  | (none, _) => throw (.tooShort row.place record size)

def Row.nextD (row : Row δ) (read : δ → m α) (default : α) : m (α × Row δ) := do
  let (value, later) ← row.next? read
  return (value.getD default, later)

def Row.finish (row : Row δ) (value : α) : m α :=
  if row.rest.isEmpty then pure value else throw (.tooLong (row.place + row.rest.length))

end Document
end RealmPlan
