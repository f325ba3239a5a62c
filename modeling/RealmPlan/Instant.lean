import RealmPlan.Text.Blank
import RealmPlan.Text.Numeral
import RealmPlan.Word

namespace RealmPlan

-- A moment in UTC, to the second. Second 60 is a leap second, kept as it was written.
structure Instant where
  day : Int
  second : Nat
  leap : Bool
deriving DecidableEq, Repr, Inhabited

namespace Instant

inductive Fault where
  | tooShort
  | invalid
  | outOfRange
  | trailing
  | impossible
deriving DecidableEq, Repr

def Fault.message : Fault → String
  | .tooShort => "premature end of input"
  | .invalid => "input contains invalid characters"
  | .outOfRange => "input is out of range"
  | .trailing => "trailing input"
  | .impossible => "no possible date and time matching input"

def isLeapYear (year : Int) : Bool :=
  year.emod 4 == 0 && (year.emod 100 != 0 || year.emod 400 == 0)

def daysInMonth (year : Int) (month : Nat) : Nat :=
  if month = 2 then if isLeapYear year then 29 else 28
  else if month = 4 ∨ month = 6 ∨ month = 9 ∨ month = 11 then 30
  else 31

def leastYear : Int := -262143
def greatestYear : Int := 262142

-- Days since 1 March of year 0, a year that ends with February; 719468 of them lie before 1970.
def dayNumber (year : Int) (month day : Nat) : Int :=
  let year := if month ≤ 2 then year - 1 else year
  let era := Int.fdiv year 400
  let yearOfEra := year - era * 400
  let monthFromMarch : Int := (month + 9) % 12
  let dayOfYear := (153 * monthFromMarch + 2) / 5 + day - 1
  era * 146097 + (yearOfEra * 365 + yearOfEra / 4 - yearOfEra / 100 + dayOfYear) - 719468

def date (number : Int) : Int × Nat × Nat :=
  let shifted := number + 719468
  let era := Int.fdiv shifted 146097
  let dayOfEra := shifted - era * 146097
  let yearOfEra := (dayOfEra - dayOfEra / 1460 + dayOfEra / 36524 - dayOfEra / 146096) / 365
  let dayOfYear := dayOfEra - (365 * yearOfEra + yearOfEra / 4 - yearOfEra / 100)
  let monthFromMarch := (5 * dayOfYear + 2) / 153
  let day := (dayOfYear - (153 * monthFromMarch + 2) / 5 + 1).toNat
  let month := if monthFromMarch < 10 then (monthFromMarch + 3).toNat else (monthFromMarch - 9).toNat
  (yearOfEra + era * 400 + (if month ≤ 2 then 1 else 0), month, day)

def twoDigits (n : Nat) : String := Text.padLeft 2 (toString n) |>.map fun c => if c == ' ' then '0' else c

-- Years outside 0 to 9999 carry their sign.
def writeYear (year : Int) : String :=
  let digits := toString year.natAbs
  let padded := String.ofList (List.replicate (4 - digits.length) '0') ++ digits
  if 0 ≤ year ∧ year ≤ 9999 then padded else (if year < 0 then "-" else "+") ++ padded

def write (instant : Instant) : String :=
  let (year, month, day) := date instant.day
  let second := instant.second % 60 + (if instant.leap then 1 else 0)
  writeYear year ++ "-" ++ twoDigits month ++ "-" ++ twoDigits day ++ "T" ++
    twoDigits (instant.second / 3600) ++ ":" ++ twoDigits (instant.second / 60 % 60) ++ ":" ++
    twoDigits second ++ "Z"

-- Digits of a number with at least one and at most `most` of them; a value past 64 bits is out of range.
def digits (most : Option Nat) (cs : List Char) : Except Fault (Nat × List Char) :=
  match cs with
  | [] => .error .tooShort
  | first :: _ =>
    if !first.isDigit then .error .invalid
    else
      let run := cs.takeWhile Char.isDigit
      let run := match most with
        | some most => run.take most
        | none => run
      let n := Text.ofDigits run
      if Word.signedEnd ≤ n then .error .outOfRange else .ok (n, cs.drop run.length)

-- A number of two digits between two bounds, with blanks in front of it.
def field (least greatest : Nat) (cs : List Char) : Except Fault (Nat × List Char) := do
  let (n, rest) ← digits (some 2) (Text.dropBlanks cs)
  if n < least ∨ greatest < n then .error .outOfRange else .ok (n, rest)

-- Four digits at most, or a sign and as many as there are.
def readYear (cs : List Char) : Except Fault (Int × List Char) := do
  let (year, rest) ← match Text.dropBlanks cs with
    | '-' :: rest => do
      let (n, rest) ← digits none rest
      pure (-(n : Int), rest)
    | '+' :: rest => do
      let (n, rest) ← digits none rest
      pure ((n : Int), rest)
    | cs => do
      let (n, rest) ← digits (some 4) cs
      pure ((n : Int), rest)
  if year < -0x80000000 ∨ 0x80000000 ≤ year then .error .outOfRange else .ok (year, rest)

-- The mark between two numbers, with blanks in front of it.
def mark (c : Char) (cs : List Char) : Except Fault (List Char) :=
  match Text.dropBlanks cs with
  | [] => .error .tooShort
  | first :: rest => if first = c then .ok rest else .error .invalid

def separator : List Char → Except Fault (List Char)
  | [] => .error .tooShort
  | c :: rest => if c = 't' ∨ c = 'T' ∨ c = ' ' then .ok rest else .error .invalid

-- Parts of a second are read and dropped.
def fraction (cs : List Char) : Except Fault (List Char) :=
  match cs with
  | '.' :: rest => do
    let (_, rest) ← digits (some 9) rest
    return rest.dropWhile Char.isDigit
  | cs => .ok cs

-- A rest of fewer than two bytes has ended too early; any other is no number.
def noPair (cs : List Char) : Fault :=
  if (String.ofList cs).utf8ByteSize < 2 then .tooShort else .invalid

-- Seconds east of UTC. Hours and minutes have two digits each, with colons or blanks between them.
def readOffset (cs : List Char) : Except Fault (Int × List Char) := do
  match cs with
  | [] => .error .tooShort
  | 'Z' :: rest => .ok (0, rest)
  | 'z' :: rest => .ok (0, rest)
  | sign :: rest =>
    if sign ≠ '+' ∧ sign ≠ '-' ∧ sign ≠ '−' then .error .invalid
    else
      match rest with
      | a :: b :: rest =>
        if !a.isDigit || !b.isDigit then .error .invalid
        else
          match rest.dropWhile fun c => c == ':' || Text.isBlank c with
          | c :: d :: rest =>
            if !c.isDigit || !d.isDigit then .error .invalid
            else if 6 ≤ Text.digitValue c then .error .outOfRange
            else
              let seconds : Int := Text.ofDigits [a, b] * 3600 + Text.ofDigits [c, d] * 60
              .ok (if sign = '+' then seconds else -seconds, rest)
          | rest => .error (noPair rest)
      | rest => .error (noPair rest)

def readZone (cs : List Char) : Except Fault (Int × List Char) :=
  let cs := Text.dropBlanks cs
  if (cs.take 3).map Char.toUpper == ['U', 'T', 'C'] then .ok (0, cs.drop 3) else readOffset cs

-- The calendar is consulted last: a text that is too long is refused before a day that does not exist.
def parse (s : String) : Except Fault Instant := do
  let (year, rest) ← readYear s.toList
  let (month, rest) ← field 1 12 (← mark '-' rest)
  let (day, rest) ← field 1 31 (← mark '-' rest)
  let (hour, rest) ← field 0 23 (← separator rest)
  let (minute, rest) ← field 0 59 (← mark ':' rest)
  let (second, rest) ← field 0 60 (← mark ':' rest)
  let (offset, rest) ← readZone (← fraction rest)
  if !(Text.dropBlanks rest).isEmpty then .error .trailing
  else if year < leastYear ∨ greatestYear < year ∨ daysInMonth year month < day then .error .outOfRange
  else if offset ≤ -86400 ∨ 86400 ≤ offset then .error .outOfRange
  else
    let ofDay : Int := hour * 3600 + minute * 60 + min second 59
    let shifted := ofDay - offset
    let day := dayNumber year month day + Int.fdiv shifted 86400
    if day < dayNumber leastYear 1 1 ∨ dayNumber greatestYear 12 31 < day then .error .impossible
    else .ok ⟨day, (Int.fmod shifted 86400).toNat, second == 60⟩

end Instant
end RealmPlan
