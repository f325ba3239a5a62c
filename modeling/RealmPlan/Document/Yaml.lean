import RealmPlan.Document
import RealmPlan.Json.Reader
import RealmPlan.Word
import RealmPlan.Yaml.Node

namespace RealmPlan.Yaml

-- A node to be read, what the anchors of its document stand for, and how many collections may still
-- be entered.
structure View where
  node : Option Node
  anchors : List (Nat × Node)
  room : Nat

-- A reading may follow a limited number of aliases; an alias can stand inside of what it stands for.
abbrev Following (α : Type) := StateT Nat (Except Mismatch) α

-- The words that a scalar without quotes is more than a text by.
def isNullWord (text : String) : Bool := text ∈ ["~", "null", "Null", "NULL"]

def boolWord? (text : String) : Option Bool :=
  if text ∈ ["true", "True", "TRUE"] then some true
  else if text ∈ ["false", "False", "FALSE"] then some false
  else none

-- A number may be written in base 2, 8 or 16. In base 10 it has no leading zero.
def wholeNumber? (text : String) : Option Int :=
  let (negative, digits) := match text.toList with
    | '-' :: rest => (true, rest)
    | '+' :: rest => (false, rest)
    | cs => (false, cs)
  let magnitude := match digits with
    | '0' :: 'x' :: rest => Text.numeralIn? 16 rest
    | '0' :: 'o' :: rest => Text.numeralIn? 8 rest
    | '0' :: 'b' :: rest => Text.numeralIn? 2 rest
    | '0' :: _ :: _ => none
    | digits => Text.numeralIn? 10 digits
  magnitude.map fun n => if negative then -(n : Int) else n

def Tag.null : Tag := .ofText "tag:yaml.org,2002:null"
def Tag.bool : Tag := .ofText "tag:yaml.org,2002:bool"
def Tag.int : Tag := .ofText "tag:yaml.org,2002:int"
def Tag.float : Tag := .ofText "tag:yaml.org,2002:float"

-- The name in a tag of the document's own, behind its sign; a sign alone is its own name.
def Tag.name? (tag : Tag) : Option String := do
  let text ← String.fromUTF8? (ByteArray.mk tag.toArray)
  match text.toList with
  | ['!'] => some "!"
  | '!' :: name => some (String.ofList name)
  | _ => none

namespace Node

def tagOf? : Node → Option Tag
  | scalar _ _ tag => tag
  | sequence tag _ => tag
  | mapping tag _ => tag
  | reference _ => none

def found : Node → Found
  | scalar text .. => .text text
  | sequence .. => .sequence
  | mapping .. | reference _ => .map

-- A plain scalar without content is nothing.
def isNothing : Node → Bool
  | scalar "" .plain _ => true
  | _ => false

-- A plain scalar is read for what it says; a literal one too where its tag asks for that.
def saying? (kind : Tag) : Node → Option String
  | scalar text .plain _ => some text
  | scalar text .literal (some tag) => if tag = kind then some text else none
  | _ => none

end Node

def wrong {α : Type} (want : String) (node : Option Node) : Following α :=
  throw (.wrongType ((node.map Node.found).getD .null) want)

-- A number of this kind has no place in a value.
def wideNumber {α : Type} (n : Int) : Following α := throw (.wrongType (.int n) "any valid JSON value")

-- Whole numbers past 64 bits are numbers still, but of 128 bits; only beyond are they taken for
-- binary ones.
def plainNumber? (text : String) : Option (Following Json) :=
  match wholeNumber? text with
  | some n =>
    if Word.fitsSigned n || (0 ≤ n && Word.fits n.toNat) then some (pure (.int n))
    else if Word.fitsDouble n then some (wideNumber n)
    else none
  | none => none

-- A binary number may be written in any way; one without a JSON form is nothing.
def binary? (text : String) : Option Json :=
  if text ∈ [".inf", ".Inf", ".INF", "+.inf", "+.Inf", "+.INF", "-.inf", "-.Inf", "-.INF",
      ".nan", ".NaN", ".NAN"] then some .null
  else do
    let (negative, digits, power) ← Binary64.numeral? text.toList
    return .float (← Binary64.nearest? negative digits power)

-- Digits behind a zero are a text.
def isPaddedNumber (text : String) : Bool :=
  match (Binary64.sign text.toList).2 with
  | '0' :: digit :: rest => digit.isDigit && rest.all Char.isDigit
  | _ => false

def plainJson (text : String) : Following Json :=
  if text.isEmpty || isNullWord text then pure .null
  else if isPaddedNumber text then pure (.text text)
  else match boolWord? text, plainNumber? text, binary? text with
    | some value, _, _ => pure (.bool value)
    | _, some read, _ => read
    | _, _, some value => pure value
    | _, _, _ => pure (.text text)

-- A tag of the language itself decides what its scalar must be.
def taggedJson (text : String) (style : Style) (tag : Tag) : Following Json :=
  let wrongWord (want : String) : Following Json := throw (.wrongValue (.text text) want)
  if tag = Tag.bool then
    match boolWord? text with
    | some value => pure (.bool value)
    | none => wrongWord "a boolean"
  else if tag = Tag.int then (plainNumber? text).getD (wrongWord "an integer")
  else if tag = Tag.float then
    match binary? text with
    | some value => pure value
    | none => wrongWord "a float"
  else if tag = Tag.null then if isNullWord text then pure .null else wrongWord "null"
  else if tag.head? == some 0x21 && style = .plain then plainJson text
  else pure (.text text)

def scalarJson (text : String) (style : Style) : Option Tag → Following Json
  | some tag => taggedJson text style tag
  | none => if style = .plain then plainJson text else pure (.text text)

-- What an alias stands for.
def follow (anchors : List (Nat × Node)) : Node → Following Node
  | .reference place => do
    match ← get with
    | 0 => throw .tooManyAliases
    | left + 1 =>
      set left
      match anchors.lookup place with
      | some node => return node
      | none => wrong "an anchor" none
  | node => return node

-- A key of a record is a scalar, whatever it is taken for elsewhere.
def keyText (anchors : List (Nat × Node)) (key : Node) : Following String := do
  match ← follow anchors key with
  | .scalar text _ _ => return text
  | node => wrong "a string" (some node)

-- A value as it stands. Tags of the document's own have no place in it.
def anything (anchors : List (Nat × Node)) : Nat → Node → Following Json
  | room, node => do
    let node ← follow anchors node
    if (node.tagOf?.bind Tag.name?).isSome then wrong "any valid JSON value" (some node)
    else match room, node with
      | _, .scalar text style tag => scalarJson text style tag
      | 0, _ => throw .tooDeep
      | room + 1, .sequence _ items => return .list (← items.mapM (anything anchors room))
      | room + 1, .mapping _ entries =>
        return .ofEntries (← entries.mapM fun (key, value) => do
          return (← keyText anchors key, ← anything anchors room value))
      | _, .reference _ => wrong "any valid JSON value" (some node)

namespace View

def resolve (view : View) : Following View :=
  match view.node with
  | none => return view
  | some node => do return { view with node := some (← follow view.anchors node) }

-- The nodes inside of a collection.
def enter (view : View) : Following (Node → View) :=
  match view.room with
  | 0 => throw .tooDeep
  | room + 1 => return fun node => { view with node := some node, room }

def text (want : String) (view : View) : Following String := do
  match (← view.resolve).node with
  | some (.scalar text _ _) => return text
  | node => wrong want node

def flag (view : View) : Following Bool := do
  let node := (← view.resolve).node
  match node.bind fun node => (node.saying? Tag.bool).bind boolWord? with
  | some value => return value
  | none => wrong "a boolean" node

def integer (view : View) : Following Int := do
  let node := (← view.resolve).node
  match node.bind fun node => (node.saying? Tag.int).bind wholeNumber? with
  | some n => if Word.fitsSigned n then return n else throw (.wrongValue (.int n) "i64")
  | none => wrong "i64" node

-- Only a plain scalar can be nothing. With a tag it is something, unless the tag says that it is
-- nothing; its word has to say so too.
def given? (view : View) : Following (Option View) := do
  let view ← view.resolve
  match view.node with
  | none => return none
  | some (.scalar text .plain none) => return if text.isEmpty || isNullWord text then none else some view
  | some (.scalar text .plain (some tag)) =>
    if tag ≠ Tag.null then return some view
    else if isNullWord text then return none
    else throw (.wrongValue (.text text) "null")
  | some _ => return some view

-- Nothing is an empty collection where a collection is wanted.
def items (view : View) : Following (List View) := do
  let view ← view.resolve
  match view.node with
  | none => return []
  | some (.sequence _ items) => return items.map (← view.enter)
  | some node => if node.isNothing then return [] else wrong "a sequence" (some node)

def entries (want : String) (view : View) : Following (List (String × View)) := do
  let view ← view.resolve
  match view.node with
  | none => return []
  | some (.mapping _ entries) =>
    let inner ← view.enter
    entries.mapM fun (key, value) => do return (← keyText view.anchors key, inner value)
  | some node => if node.isNothing then return [] else wrong want (some node)

-- A case is named by its word, or by a tag on nothing.
def variant (known : List String) (view : View) : Following String := do
  let node := (← view.resolve).node
  let checked (name : String) : Following String :=
    if name ∈ known then return name else throw (.unknownVariant name known)
  match node, node.bind Node.tagOf? |>.bind Tag.name? with
  | some (.scalar text style _), some name =>
    let name ← checked name
    if style = .plain && (text.isEmpty || isNullWord text) then return name
    else throw (.wrongValue (.text text) "null")
  | some (.scalar text _ _), none => checked text
  | node, _ => wrong "string or map" node

-- The wrapper around such a value counts as a collection.
def value (view : View) : Following Json :=
  match view.node, view.room with
  | none, _ => return .null
  | some _, 0 => throw .tooDeep
  | some node, room + 1 => anything view.anchors room node

instance : Document View Following where
  text := text
  flag := flag
  integer := integer
  given? := given?
  items := items
  entries := entries
  positional? _ := none
  variant := variant
  value := value

end View

-- Collections may stand in each other this deep.
def mostRoom : Nat := 128

-- A reading may follow a hundred aliases for every event of its document.
def aliasesPerEvent : Nat := 100

def Tree.read {α : Type} (tree : Tree) (read : View → Following α) : Reading α := do
  let view : View := { node := tree.root, anchors := tree.anchors, room := mostRoom }
  let (value, _) ← (read view).run (aliasesPerEvent * tree.events)
  return value

end RealmPlan.Yaml
