import RealmPlan.Text.Numeral

namespace RealmPlan

-- A finite binary number of 64 bits: `mantissa * 2 ^ exponent`, with a sign that zero has too.
-- The mantissa has 53 binary digits unless the exponent is the least one.
structure Binary64 where
  negative : Bool
  mantissa : Nat
  exponent : Int
deriving DecidableEq, Repr, Inhabited

namespace Binary64

def leastExponent : Int := -1074

-- The least mantissa of 53 binary digits.
def leastFull : Nat := 0x10000000000000

def powerOf (base exponent : Nat) : Nat := Nat.pow base exponent

-- Numerator and denominator of `num / den * 2 ^ shift`.
def scaled (num den : Nat) (shift : Int) : Nat × Nat :=
  if 0 ≤ shift then (num * powerOf 2 shift.toNat, den) else (num, den * powerOf 2 (-shift).toNat)

-- To the nearest integer; a half goes to the even neighbour.
def roundDiv (num den : Nat) : Nat :=
  let below := num / den
  let rest := 2 * (num % den)
  if rest < den then below
  else if den < rest then below + 1
  else if below % 2 = 0 then below else below + 1

-- The exponent at which `num / den` has 53 binary digits before the point.
def exponentOf (num den : Nat) : Int :=
  let guess : Int := (Nat.log2 num : Int) - (Nat.log2 den : Int) - 52
  let (n, d) := scaled num den (-guess)
  if n / d < leastFull then guess - 1 else guess

-- The number nearest to `num / den`; none where it is past the greatest finite one.
def ofRatio? (negative : Bool) (num den : Nat) : Option Binary64 :=
  if num = 0 then some ⟨negative, 0, leastExponent⟩ else
    let exponent := max leastExponent (exponentOf num den)
    let (n, d) := scaled num den (-exponent)
    let mantissa := roundDiv n d
    let (mantissa, exponent) :=
      if mantissa = 2 * leastFull then (leastFull, exponent + 1) else (mantissa, exponent)
    if 971 < exponent then none else some ⟨negative, mantissa, exponent⟩

-- The magnitude as numerator and denominator.
def ratio (x : Binary64) : Nat × Nat := scaled x.mantissa 1 x.exponent

-- The reals that round to the number, in units of a quarter of its last binary digit; the ends
-- belong to it when the mantissa is even.
def reach (x : Binary64) : Nat × Nat :=
  let below := if x.mantissa = leastFull && leastExponent < x.exponent then 1 else 2
  (4 * x.mantissa - below, 4 * x.mantissa + 2)

-- `digits * 10 ^ power` reads back as the number.
def readsBack (x : Binary64) (digits : Nat) (power : Int) : Bool :=
  let (low, high) := x.reach
  let (n, d) := scaled 1 1 (x.exponent - 2)
  let (p, q) := if 0 ≤ power then (powerOf 10 power.toNat, 1) else (1, powerOf 10 (-power).toNat)
  let point := digits * p * d
  let low := low * n * q
  let high := high * n * q
  if x.mantissa % 2 = 0 then low ≤ point && point ≤ high else low < point && point < high

-- One less than the count of digits before the point, or the negated place of the first digit after it.
def decimalExponent (x : Binary64) : Int :=
  let (n, d) := x.ratio
  if d ≤ n then ((Nat.toDigits 10 (n / d)).length : Int) - 1
  else
    let rec place : Nat → Nat → Int → Int
      | 0, _, e => e
      | fuel + 1, n, e => if d ≤ n then e else place fuel (10 * n) (e - 1)
    place 400 (10 * n) (-1)

-- The neighbours of the number on the grid of `count` digits, the nearer one first.
def neighbours (x : Binary64) (count : Nat) : List (Nat × Int) :=
  let (n, d) := x.ratio
  let power := x.decimalExponent - ((count : Int) - 1)
  let (n, d) := if 0 ≤ power then (n, d * powerOf 10 power.toNat) else (n * powerOf 10 (-power).toNat, d)
  let near := roundDiv n d
  let far := if near = n / d then near + 1 else near - 1
  [(near, power), (far, power)]

-- Zeros at the end go into the power.
def withoutZeros : Nat → Nat × Int → Nat × Int
  | 0, number => number
  | fuel + 1, (digits, power) =>
    if digits % 10 = 0 then withoutZeros fuel (digits / 10, power + 1) else (digits, power)

-- The fewest digits that read back, and of those the nearest. Seventeen are always enough.
def shortest (x : Binary64) : Nat × Int :=
  let counts := (List.range 17).map (· + 1)
  let readable := (counts.flatMap x.neighbours).find? fun (digits, power) => x.readsBack digits power
  withoutZeros 17 (readable.getD (0, 0))

-- The shortest digits, and how many of them stand before the point; a count below one stands for
-- zeros behind the point.
def decimal (x : Binary64) : List Char × Int :=
  if x.mantissa = 0 then (['0'], 1)
  else
    let (digits, power) := x.shortest
    let written := Nat.toDigits 10 digits
    (written, (written.length : Int) + power)

def signed (x : Binary64) (body : List Char) : String :=
  String.ofList (if x.negative then '-' :: body else body)

-- The digits before the point and those behind it.
def aroundPoint (digits : List Char) (point : Int) : List Char × List Char :=
  if point ≤ 0 then (['0'], List.replicate (-point).toNat '0' ++ digits)
  else
    let zeros := List.replicate (point.toNat - digits.length) '0'
    (digits.take point.toNat ++ zeros, digits.drop point.toNat)

-- A whole number has no point.
def positional (x : Binary64) : String :=
  let (before, behind) := aroundPoint x.decimal.1 x.decimal.2
  x.signed (before ++ if behind.isEmpty then [] else '.' :: behind)

-- Digits and the power of ten that they are to be scaled by.
def scientific (digits : List Char) (power : Int) : List Char :=
  let point := match digits with
    | [digit] => [digit]
    | first :: rest => first :: '.' :: rest
    | [] => []
  point ++ ['e', if power < 0 then '-' else '+'] ++ Nat.toDigits 10 power.natAbs

-- Positional between a hundred-thousandth and ten quadrillions, with a digit on either side of the
-- point; scientific beyond.
def text (x : Binary64) : String :=
  let (digits, point) := x.decimal
  if -5 < point ∧ point ≤ 16 then
    let (before, behind) := aroundPoint digits point
    x.signed (before ++ '.' :: if behind.isEmpty then ['0'] else behind)
  else x.signed (scientific digits (point - 1))

-- The number nearest to `digits * 10 ^ power`, whatever the power; none past the greatest one.
def nearest? (negative : Bool) (digits : Nat) (power : Int) : Option Binary64 :=
  let size : Int := (Nat.toDigits 10 digits).length
  if digits = 0 ∨ size + power < -330 then ofRatio? negative 0 1
  else if 310 < size + power then none
  else if 0 ≤ power then ofRatio? negative (digits * powerOf 10 power.toNat) 1
  else ofRatio? negative digits (powerOf 10 (-power).toNat)

def sign : List Char → Bool × List Char
  | '-' :: rest => (true, rest)
  | '+' :: rest => (false, rest)
  | cs => (false, cs)

-- A decimal numeral with an optional sign, point and power of ten: its sign, digits and power.
def numeral? (cs : List Char) : Option (Bool × Nat × Int) := do
  let (negative, cs) := sign cs
  let whole := cs.takeWhile Char.isDigit
  let behind := cs.drop whole.length
  let fraction := match behind with
    | '.' :: rest => rest.takeWhile Char.isDigit
    | _ => []
  let behind := match behind with
    | '.' :: rest => rest.drop fraction.length
    | behind => behind
  if whole.isEmpty && fraction.isEmpty then none
  let power ← match behind with
    | [] => some 0
    | e :: rest =>
      let (down, digits) := sign rest
      let magnitude : Option Int := (Text.natural? digits).map Int.ofNat
      if e == 'e' || e == 'E' then magnitude.map fun n => if down then -n else n else none
  return (negative, Text.ofDigits (whole ++ fraction), power - fraction.length)

-- Each step rounds once more, so the product can miss the nearest number by a digit.
def times? (x y : Binary64) : Option Binary64 :=
  ofRatio? x.negative (x.ratio.1 * y.ratio.1) (x.ratio.2 * y.ratio.2)

def over? (x y : Binary64) : Option Binary64 :=
  ofRatio? x.negative (x.ratio.1 * y.ratio.2) (x.ratio.2 * y.ratio.1)

def powerOfTen? (power : Nat) : Option Binary64 := ofRatio? false (powerOf 10 power) 1

-- A written number is its digits, rounded, and then scaled in steps of at most 308 places.
def ofDecimal? (negative : Bool) (digits : Nat) (power : Int) : Option Binary64 := do
  let start ← ofRatio? negative digits 1
  if start.mantissa = 0 then return start
  if 308 < power then none
  else if 0 ≤ power then start.times? (← powerOfTen? power.toNat)
  else shrink 4 start (-power).toNat
where
  shrink : Nat → Binary64 → Nat → Option Binary64
    | 0, x, _ => some x
    | fuel + 1, x, places =>
      if x.mantissa = 0 then some x
      else if places ≤ 308 then do x.over? (← powerOfTen? places)
      else do shrink fuel (← x.over? (← powerOfTen? 308)) (places - 308)

end Binary64
end RealmPlan
