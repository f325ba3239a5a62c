import RealmPlan.Json
import RealmPlan.Word

namespace RealmPlan.Json

-- Every function here answers the value it read and the text behind it.

def skipSpace (cs : List Char) : List Char :=
  cs.dropWhile fun c => c == ' ' || c == '\n' || c == '\t' || c == '\r'

def unit16? : List Char → Option (Nat × List Char)
  | a :: b :: c :: d :: rest => (Text.numeralIn? 16 [a, b, c, d]).map (·, rest)
  | _ => none

-- A character past the first plane takes two units; half of a pair is no character.
def escapedUnit? (cs : List Char) : Option (Char × List Char) := do
  let (first, rest) ← unit16? cs
  if 0xDC00 ≤ first ∧ first ≤ 0xDFFF then none
  else if 0xD800 ≤ first ∧ first ≤ 0xDBFF then
    match rest with
    | '\\' :: 'u' :: rest => do
      let (second, rest) ← unit16? rest
      if 0xDC00 ≤ second ∧ second ≤ 0xDFFF then
        some (Char.ofNat (0x10000 + 0x400 * (first - 0xD800) + (second - 0xDC00)), rest)
      else none
    | _ => none
  else some (Char.ofNat first, rest)

def escape? : Char → Option Char
  | '"' => some '"'
  | '\\' => some '\\'
  | '/' => some '/'
  | 'b' => some '\x08'
  | 'f' => some '\x0c'
  | 'n' => some '\n'
  | 'r' => some '\r'
  | 't' => some '\t'
  | _ => none

-- The rest of a text after its opening quote; `done` holds the characters read, last one first.
def textTail? : Nat → List Char → List Char → Option (String × List Char)
  | 0, _, _ => none
  | fuel + 1, done, cs =>
    match cs with
    | '"' :: rest => some (String.ofList done.reverse, rest)
    | '\\' :: 'u' :: rest => do
      let (c, rest) ← escapedUnit? rest
      textTail? fuel (c :: done) rest
    | '\\' :: c :: rest => do textTail? fuel ((← escape? c) :: done) rest
    | c :: rest => if c.toNat < 0x20 then none else textTail? fuel (c :: done) rest
    | [] => none

-- As many digits behind those of a word as it still holds, and how many more there are.
def wordDigits (word : Nat) : List Char → Nat × Nat
  | [] => (word, 0)
  | c :: rest =>
    let next := 10 * word + Text.digitValue c
    if Word.fits next then wordDigits next rest else (word, rest.length + 1)

def fraction? (cs : List Char) : Option (List Char × List Char) :=
  match cs with
  | '.' :: rest =>
    let digits := rest.takeWhile Char.isDigit
    if digits.isEmpty then none else some (digits, rest.dropWhile Char.isDigit)
  | cs => some ([], cs)

def power? (cs : List Char) : Option (Int × List Char) :=
  let signed (rest : List Char) : Option (Int × List Char) :=
    let (negative, rest) := match rest with
      | '-' :: rest => (true, rest)
      | '+' :: rest => (false, rest)
      | rest => (false, rest)
    let digits := rest.takeWhile Char.isDigit
    if digits.isEmpty then none
    else
      let n : Int := Text.ofDigits digits
      some (if negative then -n else n, rest.dropWhile Char.isDigit)
  match cs with
  | 'e' :: rest => signed rest
  | 'E' :: rest => signed rest
  | cs => some (0, cs)

def binary? (negative : Bool) (whole fraction : List Char) (power : Int) : Option Json :=
  let (word, dropped) := wordDigits 0 whole
  let (word, left) := wordDigits word fraction
  (Binary64.ofDecimal? negative word (power + dropped - (fraction.length - left : Nat))).map .float

-- Minus zero and whole numbers past a word are binary numbers.
def number? (negative : Bool) (cs : List Char) : Option (Json × List Char) := do
  let whole := cs.takeWhile Char.isDigit
  match whole with
  | [] => none
  | '0' :: _ :: _ => none
  | _ =>
    let rest := cs.dropWhile Char.isDigit
    let (fraction, afterFraction) ← fraction? rest
    let (power, afterPower) ← power? afterFraction
    let plain := !rest.head?.any (· ∈ ['.', 'e', 'E'])
    let n := Text.ofDigits whole
    if plain && !negative && Word.fits n then some (.int n, afterPower)
    else if plain && negative && 0 < n && n ≤ Word.signedEnd then some (.int (-(n : Int)), afterPower)
    else some (← binary? negative whole fraction power, afterPower)

def word? (word : String) (value : Json) (cs : List Char) : Option (Json × List Char) :=
  if word.toList.isPrefixOf cs then some (value, cs.drop word.length) else none

mutual
def value? : Nat → List Char → Option (Json × List Char)
  | 0, _ => none
  | fuel + 1, cs =>
    match skipSpace cs with
    | 'n' :: rest => word? "null" .null ('n' :: rest)
    | 't' :: rest => word? "true" (.bool true) ('t' :: rest)
    | 'f' :: rest => word? "false" (.bool false) ('f' :: rest)
    | '"' :: rest => (textTail? fuel [] rest).map fun (s, rest) => (.text s, rest)
    | '-' :: rest => number? true rest
    | '[' :: rest =>
      match skipSpace rest with
      | ']' :: rest => some (.list [], rest)
      | rest => (items? fuel rest).map fun (items, rest) => (.list items, rest)
    | '\x7b' :: rest =>
      match skipSpace rest with
      | '\x7d' :: rest => some (.object [], rest)
      | rest => (entries? fuel rest).map fun (entries, rest) => (ofEntries entries, rest)
    | cs => number? false cs

def items? : Nat → List Char → Option (List Json × List Char)
  | 0, _ => none
  | fuel + 1, cs => do
    let (item, rest) ← value? fuel cs
    match skipSpace rest with
    | ',' :: rest => do
      let (items, rest) ← items? fuel rest
      some (item :: items, rest)
    | ']' :: rest => some ([item], rest)
    | _ => none

def entries? : Nat → List Char → Option (List (String × Json) × List Char)
  | 0, _ => none
  | fuel + 1, cs =>
    match skipSpace cs with
    | '"' :: rest => do
      let (name, rest) ← textTail? fuel [] rest
      match skipSpace rest with
      | ':' :: rest => do
        let (value, rest) ← value? fuel rest
        match skipSpace rest with
        | ',' :: rest => do
          let (entries, rest) ← entries? fuel rest
          some ((name, value) :: entries, rest)
        | '\x7d' :: rest => some ([(name, value)], rest)
        | _ => none
      | _ => none
    | _ => none
end

-- A list and its first item may begin at one character, and no other two steps do; so twice the
-- length is fuel enough, also for the characters of the texts inside.
def parse? (s : String) : Option Json := do
  let cs := s.toList
  let (value, rest) ← value? (2 * cs.length + 2) cs
  if (skipSpace rest).isEmpty then some value else none

end RealmPlan.Json
