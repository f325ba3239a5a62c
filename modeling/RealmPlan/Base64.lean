namespace RealmPlan.Base64

-- Why a text is no base64. A symbol is named by its byte and its place; a last symbol is refused
-- when it carries bits that no byte uses.
inductive Fault where
  | symbol (byte : UInt8) (place : Nat)
  | lastSymbol (byte : UInt8) (place : Nat)
  | length (symbols : Nat)
  | padding
deriving DecidableEq, Repr

def Fault.message : Fault → String
  | .symbol byte place => s!"Invalid symbol {byte}, offset {place}."
  | .lastSymbol byte place => s!"Invalid last symbol {byte}, offset {place}."
  | .length symbols => s!"Invalid input length: {symbols}"
  | .padding => "Invalid padding"

def alphabet : List Char :=
  "ABCDEFGHIJKLMNOPQRSTUVWXYZabcdefghijklmnopqrstuvwxyz0123456789+/".toList

def symbol (value : Nat) : Char := alphabet.getD value '='

def value? (byte : UInt8) : Option Nat :=
  let n := byte.toNat
  if 65 ≤ n ∧ n ≤ 90 then some (n - 65)
  else if 97 ≤ n ∧ n ≤ 122 then some (n - 71)
  else if 48 ≤ n ∧ n ≤ 57 then some (n + 4)
  else if n = 43 then some 62
  else if n = 47 then some 63
  else none

def pad : UInt8 := 61

def encodeBytes : List UInt8 → List Char
  | [] => []
  | [a] =>
    [symbol (a.toNat / 4), symbol (a.toNat % 4 * 16), '=', '=']
  | [a, b] =>
    [symbol (a.toNat / 4), symbol (a.toNat % 4 * 16 + b.toNat / 16), symbol (b.toNat % 16 * 4), '=']
  | a :: b :: c :: rest =>
    symbol (a.toNat / 4) :: symbol (a.toNat % 4 * 16 + b.toNat / 16) ::
      symbol (b.toNat % 16 * 4 + c.toNat / 64) :: symbol (c.toNat % 64) :: encodeBytes rest

def encode (bytes : List UInt8) : String := String.ofList (encodeBytes bytes)

def bytesOf (a b c d : Nat) : List UInt8 :=
  [UInt8.ofNat (a * 4 + b / 16), UInt8.ofNat (b % 16 * 16 + c / 4), UInt8.ofNat (c % 4 * 64 + d)]

def read (byte : UInt8) (place : Nat) : Except Fault Nat :=
  match value? byte with
  | some value => .ok value
  | none => .error (.symbol byte place)

-- The last four symbols or fewer: values before the padding, and how much padding stands behind them.
-- Padding counts only from the third place on, and nothing may follow it.
def tail (start : Nat) (symbols : List UInt8) : Except Fault (List Nat × Nat) := do
  let rec go : Nat → List UInt8 → List Nat → Nat → Except Fault (List Nat × Nat)
    | _, [], values, padding => .ok (values, padding)
    | place, byte :: rest, values, padding =>
      if byte = pad then
        if place < start + 2 then .error (.symbol byte place)
        else go (place + 1) rest values (padding + 1)
      else if 0 < padding then .error (.symbol pad (place - padding))
      else do go (place + 1) rest (values ++ [← read byte place]) padding
  go start symbols [] 0

-- Symbols of the tail that stand for bytes, checked in this order: too few to make a byte, padding
-- that does not fill the group, bits that no byte uses.
def finish (start : Nat) (symbols : List UInt8) : Except Fault (List UInt8) := do
  let (values, padding) ← tail start symbols
  let last := symbols.getD (values.length - 1) pad
  let place := start + values.length - 1
  if values.length < 2 then .error (.length (start + values.length))
  else if (values.length + padding) % 4 ≠ 0 then .error .padding
  else match values with
    | [a, b] => if b % 16 ≠ 0 then .error (.lastSymbol last place) else .ok ((bytesOf a b 0 0).take 1)
    | [a, b, c] => if c % 4 ≠ 0 then .error (.lastSymbol last place) else .ok ((bytesOf a b c 0).take 2)
    | [a, b, c, d] => .ok (bytesOf a b c d)
    | _ => .ok []

def groups (place : Nat) : List UInt8 → Except Fault (List UInt8)
  | [] => .ok []
  | a :: b :: c :: d :: next :: rest => do
    let bytes := bytesOf (← read a place) (← read b (place + 1)) (← read c (place + 2)) (← read d (place + 3))
    return bytes ++ (← groups (place + 4) (next :: rest))
  | symbols => finish place symbols

-- A single symbol behind whole groups is looked at first, so a stray last character is the one named.
def decodeBytes (symbols : List UInt8) : Except Fault (List UInt8) :=
  let place := symbols.length - 1
  let last := symbols.getD place pad
  if symbols.length % 4 = 1 && last ≠ pad && (value? last).isNone then .error (.symbol last place)
  else groups 0 symbols

def decode (s : String) : Except Fault (List UInt8) := decodeBytes s.toUTF8.toList

end RealmPlan.Base64
