import RealmPlan.Text.Numeral

namespace RealmPlan.Yaml

-- Why a text is no document.
inductive Fault where
  | forbiddenCharacter
  | unexpectedEnd
  -- A tab stands where only spaces indent.
  | tabIndents
  -- A key that had to be one is not followed by its colon.
  | keyWithoutColon
  -- An entry, a key or a value begins where none may.
  | misplacedEntry
  | misplacedMark
  | badEscape
  | badDirective
  | badName
  | badTag
  | badBlockHeader
  | noTokenBegins
  | unexpectedToken
  | unknownAnchor (name : String)
  | severalDocuments
deriving DecidableEq

def Fault.message : Fault → String
  | .forbiddenCharacter => "control characters are not allowed"
  | .unexpectedEnd => "unexpected end of the document"
  | .tabIndents => "a tab stands where a space is expected"
  | .keyWithoutColon => "a key is not followed by a colon"
  | .misplacedEntry => "an entry is not allowed here"
  | .misplacedMark => "a document mark stands inside a scalar"
  | .badEscape => "an escape is unknown or names no character"
  | .badDirective => "a directive is malformed"
  | .badName => "an anchor or alias has no name"
  | .badTag => "a tag is malformed"
  | .badBlockHeader => "the header of a block scalar is malformed"
  | .noTokenBegins => "no token begins with this character"
  | .unexpectedToken => "the document has a token that does not belong there"
  | .unknownAnchor name => "the anchor " ++ name ++ " is not defined"
  | .severalDocuments => "there is more than one document"

abbrev Scanning (α : Type) := Except Fault α

def isBreak (c : Char) : Bool :=
  c == '\n' || c == '\r' || c.toNat == 0x85 || c.toNat == 0x2028 || c.toNat == 0x2029

def isSpaceOrTab (c : Char) : Bool := c == ' ' || c == '\t'

def isNameChar (c : Char) : Bool := c.isAlphanum || c == '_' || c == '-'

-- Line and column decide what belongs to what, so a place in the text carries them. A column counts
-- characters, the index counts bytes.
structure Cursor where
  rest : List Char
  line : Nat := 0
  column : Nat := 0
  index : Nat := 0

namespace Cursor

def peek? (cursor : Cursor) (ahead : Nat) : Option Char := cursor.rest[ahead]?

def sees (cursor : Cursor) (c : Char) : Bool := cursor.rest.head? == some c

-- The end of the text counts as white space.
def blankAt (cursor : Cursor) (ahead : Nat) : Bool :=
  (cursor.peek? ahead).all fun c => isSpaceOrTab c || isBreak c

def atEnd (cursor : Cursor) : Bool := cursor.rest.isEmpty

def atBreak (cursor : Cursor) : Bool := cursor.rest.head?.any isBreak

def atSpaceOrTab (cursor : Cursor) : Bool := cursor.rest.head?.any isSpaceOrTab

-- The index behind the next characters.
def indexBehind (cursor : Cursor) (count : Nat) : Nat :=
  (cursor.rest.take count).foldl (fun index c => index + c.utf8Size) cursor.index

def advance (cursor : Cursor) (count : Nat) : Cursor :=
  { cursor with
    rest := cursor.rest.drop count
    column := cursor.column + count
    index := cursor.indexBehind count }

-- Over one line break, and what the break reads as.
def breakLine (cursor : Cursor) : List Char × Cursor :=
  let past (count : Nat) : Cursor :=
    { rest := cursor.rest.drop count, line := cursor.line + 1, column := 0, index := cursor.indexBehind count }
  match cursor.rest with
  | '\r' :: '\n' :: _ => (['\n'], past 2)
  | c :: _ =>
    if c == '\n' || c == '\r' || c.toNat == 0x85 then (['\n'], past 1)
    else if isBreak c then ([c], past 1)
    else ([], cursor)
  | [] => ([], cursor)

def takeWhile (cursor : Cursor) (among : Char → Bool) : List Char × Cursor :=
  let taken := cursor.rest.takeWhile among
  (taken, cursor.advance taken.length)

def skipSpacesAndTabs (cursor : Cursor) : Cursor := (cursor.takeWhile isSpaceOrTab).2

-- A comment goes on to the end of its line.
def skipComment (cursor : Cursor) : Cursor :=
  if cursor.sees '#' then (cursor.takeWhile (!isBreak ·)).2 else cursor

-- Three equal characters at the start of a line, alone in their word, part documents.
def atMark (cursor : Cursor) (c : Char) : Bool :=
  cursor.column == 0 && [c, c, c].isPrefixOf cursor.rest && cursor.blankAt 3

def atAnyMark (cursor : Cursor) : Bool := cursor.atMark '-' || cursor.atMark '.'

end Cursor
end RealmPlan.Yaml
