import RealmPlan.Word

namespace RealmPlan.Text

def digitValue (c : Char) : Nat := c.toNat - '0'.toNat

def ofDigits (cs : List Char) : Nat := cs.foldl (fun n c => 10 * n + digitValue c) 0

-- Digits alone; the empty text is no numeral. Leading zeros are allowed.
def natural? (cs : List Char) : Option Nat :=
  if cs.isEmpty || !cs.all Char.isDigit then none else some (ofDigits cs)

-- A word of the machine: one plus sign may stand in front, and a value past the last one is refused.
def word64? (s : String) : Option Nat :=
  let digits := match s.toList with
    | '+' :: rest => rest
    | cs => cs
  (natural? digits).filter Word.fits

-- The value of a digit, in a base of at most sixteen.
def digitIn? (base : Nat) (c : Char) : Option Nat := do
  let value ←
    if c.isDigit then some (digitValue c)
    else if 'a' ≤ c ∧ c ≤ 'f' then some (c.toNat - 'a'.toNat + 10)
    else if 'A' ≤ c ∧ c ≤ 'F' then some (c.toNat - 'A'.toNat + 10)
    else none
  if value < base then some value else none

-- A numeral of one digit at least.
def numeralIn? (base : Nat) (digits : List Char) : Option Nat := do
  if digits.isEmpty then none
  digits.foldlM (fun n c => return base * n + (← digitIn? base c)) 0

def hexDigits (n : Nat) : List Char := Nat.toDigits 16 n

-- Columns count characters; a text that is too wide stays whole.
def padLeft (width : Nat) (s : String) : String :=
  String.ofList (List.replicate (width - s.length) ' ') ++ s

def padRight (width : Nat) (s : String) : String :=
  s ++ String.ofList (List.replicate (width - s.length) ' ')

theorem length_padLeft (width : Nat) (s : String) : (padLeft width s).length = max width s.length := by
  simp [padLeft]; omega

theorem length_padRight (width : Nat) (s : String) : (padRight width s).length = max width s.length := by
  simp [padRight]; omega

end RealmPlan.Text
