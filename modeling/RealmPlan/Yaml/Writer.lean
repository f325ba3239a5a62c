import RealmPlan.Json.Printer
import RealmPlan.Yaml.Token.Lexer

namespace RealmPlan.Yaml

-- Writes a value in block style, a level of nesting being two columns. Lists stand as deep as the
-- key that holds them.

-- Texts that a reader would take for something else must be quoted.
def isPlainWord (s : String) : Bool :=
  let inner (c : Char) : Bool := c.isAlphanum || c ∈ " .-_/\x60,;()'".toList
  let startsWell := match s.toList with
    | first :: second :: _ => first.isAlpha || (first == '.' && second.isAlpha)
    | [first] => first.isAlpha
    | [] => false
  startsWell && s.toList.all inner && !s.endsWith " " &&
    s.toLower ∉ ["null", "true", "false", "y", "n", "yes", "no", "on", "off", ".nan", ".inf"]

-- In quotes every text can stand, as in JSON, but for the line breaks and the characters that a
-- document must not hold.
def spell (c : Char) : List Char :=
  if c.toNat < 0x20 || (isPrintable c && !isBreak c && c.toNat != 0xFEFF) then Json.spell c
  else
    let digits := Text.hexDigits c.toNat
    ['\\', 'U'] ++ List.replicate (8 - digits.length) '0' ++ digits

def scalar (s : String) : String :=
  if isPlainWord s then s else "\"" ++ String.ofList (s.toList.flatMap spell) ++ "\""

-- A text of several lines that a literal block gives back as it is.
def isLiteral (s : String) : Bool :=
  s.contains '\n' && !s.startsWith " " && !s.startsWith "\n" && !s.endsWith "\n" &&
    s.toList.all fun c => c == '\n' || (0x20 ≤ c.toNat && c.toNat < 0x7f)

def indented (depth : Nat) (s : String) : String :=
  if s.isEmpty then s else String.ofList (List.replicate (2 * depth) ' ') ++ s

def literal (depth : Nat) (s : String) : List String :=
  "|-" :: (s.splitOn "\n").map (indented depth)

mutual
-- The lines of a value that begins behind a key, and whether its first line stays on the key's line.
def lines (depth : Nat) : Json → List String × Bool
  | .null => (["null"], true)
  | .bool value => ([toString value], true)
  | .int value => ([toString value], true)
  | .float value => ([value.text], true)
  | .text value => (if isLiteral value then literal (max depth 1) value else [scalar value], true)
  | .list [] => (["[]"], true)
  | .object [] => (["\x7b\x7d"], true)
  | .list (item :: items) => (itemLines depth (item :: items), false)
  | .object (field :: fields) => (fieldLines depth (field :: fields), false)

def itemLines (depth : Nat) : List Json → List String
  | [] => []
  | item :: items =>
    let (below, _) := lines (depth + 1) item
    let marked := match below with
      | [] => []
      | first :: more => indented depth ("- " ++ first.trimAsciiStart.toString) :: more
    marked ++ itemLines depth items

def fieldLines (depth : Nat) : List (String × Json) → List String
  | [] => []
  | (name, value) :: fields =>
    let key := indented depth (scalar name ++ ":")
    let (below, inline) := lines (if value.isList then depth else depth + 1) value
    let written := match below, inline with
      | first :: more, true => (key ++ " " ++ first) :: more
      | below, _ => key :: below
    written ++ fieldLines depth fields
end

def write (value : Json) : String := String.join ((lines 0 value).1.map (· ++ "\n"))

end RealmPlan.Yaml
