import RealmPlan.Yaml.Scalar
import RealmPlan.Yaml.Token

namespace RealmPlan.Yaml

-- A key is known for one only by the colon behind it, so every place where one may have begun is kept.
structure KeyStart where
  -- How many tokens stand before it.
  position : Nat
  -- Nothing but a key can stand here.
  required : Bool
  line : Nat
  column : Nat
  index : Nat

structure Lexer where
  cursor : Cursor
  -- The length of the text and one more, which is enough steps for every loop over it.
  size : Nat
  -- The tokens so far, last one first, and their count.
  tokens : List Token := []
  count : Nat := 0
  -- The indentation of the innermost collection in lines, and those around it.
  indent : Int := -1
  outer : List Int := []
  -- One place for a key in every open bracket, the innermost first, and one outside of all brackets.
  keys : List (Option KeyStart) := [none]
  keyAllowed : Bool := true

namespace Lexer

def inFlow (lexer : Lexer) : Bool := 1 < lexer.keys.length

def push (lexer : Lexer) (token : Token) : Lexer :=
  { lexer with tokens := token :: lexer.tokens, count := lexer.count + 1 }

-- In front of the tokens from a position on.
def insert (lexer : Lexer) (position : Nat) (token : Token) : Lexer :=
  let (behind, before) := lexer.tokens.splitAt (lexer.count - position)
  { lexer with tokens := behind ++ token :: before, count := lexer.count + 1 }

def advance (lexer : Lexer) (count : Nat) : Lexer := { lexer with cursor := lexer.cursor.advance count }

def allowKey (lexer : Lexer) (allowed : Bool) : Lexer := { lexer with keyAllowed := allowed }

-- A key stays on its line and is short.
def isStale (lexer : Lexer) (start : KeyStart) : Bool :=
  start.line < lexer.cursor.line || start.index + 1024 < lexer.cursor.index

def dropStaleKeys (lexer : Lexer) : Scanning Lexer := do
  let keys ← lexer.keys.mapM fun key =>
    match key with
    | none => .ok none
    | some start =>
      if !lexer.isStale start then .ok (some start)
      else if start.required then .error .keyWithoutColon
      else .ok none
  return { lexer with keys }

def setKey (lexer : Lexer) (key : Option KeyStart) : Lexer :=
  { lexer with keys := key :: lexer.keys.tail }

def forgetKey (lexer : Lexer) : Scanning Lexer :=
  match lexer.keys.head?.join with
  | some start => if start.required then .error .keyWithoutColon else .ok (lexer.setKey none)
  | none => .ok lexer

def saveKey (lexer : Lexer) : Scanning Lexer := do
  if !lexer.keyAllowed then return lexer
  let lexer ← lexer.forgetKey
  let { line, column, index, .. } := lexer.cursor
  let required := !lexer.inFlow && lexer.indent == column
  return lexer.setKey (some { position := lexer.count, required, line, column, index })

-- Opens a collection in lines if the column is deeper than those that are open.
def openBlock (lexer : Lexer) (column position : Nat) (token : Token) : Lexer :=
  if lexer.inFlow || (column : Int) ≤ lexer.indent then lexer
  else { lexer.insert position token with indent := column, outer := lexer.indent :: lexer.outer }

-- Closes the collections in lines that are deeper than the column.
def closeBlocks (lexer : Lexer) (column : Int) : Lexer :=
  if lexer.inFlow then lexer else go lexer.outer { lexer with outer := [] }
where
  go : List Int → Lexer → Lexer
    | [], lexer => lexer
    | outside :: outer, lexer =>
      if column < lexer.indent then go outer { lexer.push .blockEnd with indent := outside }
      else { lexer with outer := outside :: outer }

-- A byte order mark may start a line, and takes a column of it.
def skipByteOrderMark (cursor : Cursor) : Cursor :=
  if cursor.column == 0 && cursor.sees (Char.ofNat 0xFEFF) then cursor.advance 1 else cursor

-- Over spaces, comments and line breaks. A tab is no indentation.
def skipToToken : Nat → Lexer → Lexer
  | 0, lexer => lexer
  | fuel + 1, lexer =>
    let tabs := lexer.inFlow || !lexer.keyAllowed
    let start := skipByteOrderMark lexer.cursor
    let cursor := (start.takeWhile fun c => c == ' ' || (tabs && c == '\t')).2.skipComment
    if cursor.atBreak then
      let lexer := { lexer with cursor := cursor.breakLine.2 }
      skipToToken fuel (if lexer.inFlow then lexer else lexer.allowKey true)
    else { lexer with cursor }

def readDigits (cursor : Cursor) : Scanning (Nat × Cursor) :=
  let (digits, later) := cursor.takeWhile Char.isDigit
  if digits.isEmpty || 9 < digits.length then .error .badDirective else .ok (Text.ofDigits digits, later)

-- A handle is an exclamation mark, or a name between two.
def readHandle (cursor : Cursor) : Scanning (List Char × Cursor) :=
  if !cursor.sees '!' then .error .badTag
  else
    let (name, later) := (cursor.advance 1).takeWhile isNameChar
    if later.sees '!' then .ok ('!' :: name ++ ['!'], later.advance 1) else .ok ('!' :: name, later)

def isUriChar (inBrackets : Bool) (c : Char) : Bool :=
  isNameChar c || c ∈ ";/?:@&=+$.!~*'()%".toList || (inBrackets && c ∈ [',', '[', ']'])

-- How many bytes follow the first one of a character.
def bytesBehind? (first : Nat) : Option Nat :=
  if first < 0x80 then some 0
  else if 0xC0 ≤ first ∧ first < 0xE0 then some 1
  else if 0xE0 ≤ first ∧ first < 0xF0 then some 2
  else if 0xF0 ≤ first ∧ first < 0xF8 then some 3
  else none

-- A percent sign stands before the two digits of a byte. The bytes of a character stay together;
-- `missing` of them are still to come.
def uriBytes? (missing : Nat) : List Char → Option Tag
  | [] => if missing = 0 then some [] else none
  | '%' :: high :: low :: rest => do
    let byte ← Text.numeralIn? 16 [high, low]
    let bytes ←
      if missing = 0 then uriBytes? (← bytesBehind? byte) rest
      else if 0x80 ≤ byte ∧ byte < 0xC0 then uriBytes? (missing - 1) rest
      else none
    some (UInt8.ofNat byte :: bytes)
  | c :: rest => do
    if missing ≠ 0 ∨ c = '%' then none
    some (UInt8.ofNat c.toNat :: (← uriBytes? 0 rest))

-- A null byte ends a tag.
def readUri (cursor : Cursor) (inBrackets : Bool) : Scanning (Option Tag × Cursor) :=
  let (uri, later) := cursor.takeWhile (isUriChar inBrackets)
  match uriBytes? 0 uri with
  | some bytes => .ok (if uri.isEmpty then none else some (bytes.takeWhile (· != 0)), later)
  | none => .error .badTag

def readTagDirective (cursor : Cursor) : Scanning (Token × Cursor) := do
  let (handle, behind) ← readHandle cursor.skipSpacesAndTabs
  if handle != ['!'] && (handle.length < 2 || handle.getLast? != some '!') then throw .badDirective
  if !behind.atSpaceOrTab then throw .badDirective
  match ← readUri behind.skipSpacesAndTabs true with
  | (some start, later) =>
    if later.blankAt 0 then return (.tagHandle (String.ofList handle) start, later)
    throw .badDirective
  | (none, _) => throw .badDirective

def readVersion (cursor : Cursor) : Scanning (Token × Cursor) := do
  let (major, behind) ← readDigits cursor.skipSpacesAndTabs
  if !behind.sees '.' then throw .badDirective
  let (minor, later) ← readDigits (behind.advance 1)
  return (.version major minor, later)

def readDirective (cursor : Cursor) : Scanning (Token × Cursor) := do
  let (name, behind) := (cursor.advance 1).takeWhile isNameChar
  if !behind.blankAt 0 then throw .badDirective
  let (token, later) ←
    if name == "YAML".toList then readVersion behind
    else if name == "TAG".toList then readTagDirective behind
    else throw .badDirective
  let later := later.skipSpacesAndTabs.skipComment
  if !(later.atEnd || later.atBreak) then throw .badDirective
  return (token, later.breakLine.2)

def readName (cursor : Cursor) : Scanning (String × Cursor) :=
  let (name, later) := (cursor.advance 1).takeWhile isNameChar
  let ends := later.blankAt 0 || later.rest.head?.any (· ∈ ['?', ':', ',', ']', '\x7d', '%', '@', '\x60'])
  if name.isEmpty || !ends then .error .badName else .ok (String.ofList name, later)

-- A tag is written out in angle brackets, or begins with a handle. A name behind the sign that no
-- second sign follows is part of the tag; a lone sign is a tag of its own.
def readTag (lexer : Lexer) : Scanning (Token × Cursor) := do
  let cursor := lexer.cursor
  let (tag, later) ←
    if cursor.peek? 1 == some '<' then do
      match ← readUri (cursor.advance 2) true with
      | (some uri, later) =>
        if !later.sees '>' then throw .badTag
        pure (Token.tag "" uri, later.advance 1)
      | (none, _) => throw .badTag
    else do
      let (handle, behind) ← readHandle cursor
      let (rest, later) ← readUri behind false
      if 1 < handle.length && handle.getLast? == some '!' then
        match rest with
        | some rest => pure (Token.tag (String.ofList handle) rest, later)
        | none => throw .badTag
      else
        let rest := Tag.ofText (String.ofList handle.tail) ++ rest.getD []
        pure (if rest.isEmpty then Token.tag "" (Tag.ofText "!") else Token.tag "!" rest, later)
  if !(later.blankAt 0 || (lexer.inFlow && later.sees ',')) then throw .badTag
  return (tag, later)

def openFlow (lexer : Lexer) (token : Token) : Scanning Lexer := do
  let lexer ← lexer.saveKey
  return (({ lexer with keys := none :: lexer.keys }.advance 1).allowKey true).push token

def closeFlow (lexer : Lexer) (token : Token) : Scanning Lexer := do
  let lexer ← lexer.forgetKey
  let keys := if lexer.inFlow then lexer.keys.tail else lexer.keys
  return (({ lexer with keys }.advance 1).allowKey false).push token

def flowEntry (lexer : Lexer) : Scanning Lexer := do
  return (((← lexer.forgetKey).advance 1).allowKey true).push .flowEntry

def blockEntry (lexer : Lexer) : Scanning Lexer := do
  if !lexer.inFlow && !lexer.keyAllowed then throw .misplacedEntry
  let lexer ← (lexer.openBlock lexer.cursor.column lexer.count .blockSequence).forgetKey
  return ((lexer.advance 1).allowKey true).push .blockEntry

def explicitKey (lexer : Lexer) : Scanning Lexer := do
  if !lexer.inFlow && !lexer.keyAllowed then throw .misplacedEntry
  let lexer ← (lexer.openBlock lexer.cursor.column lexer.count .blockMapping).forgetKey
  return ((lexer.advance 1).allowKey (!lexer.inFlow)).push .key

-- The colon behind a key that was not marked as one puts the mark in front of it.
def value (lexer : Lexer) : Scanning Lexer := do
  match lexer.keys.head?.join with
  | some start =>
    let lexer := (lexer.insert start.position .key).openBlock start.column start.position .blockMapping
    return (((lexer.setKey none).advance 1).allowKey false).push .value
  | none =>
    if !lexer.inFlow && !lexer.keyAllowed then throw .misplacedEntry
    let lexer := lexer.openBlock lexer.cursor.column lexer.count .blockMapping
    return ((lexer.advance 1).allowKey (!lexer.inFlow)).push .value

-- A token that a key may begin with.
def keyToken (lexer : Lexer) (read : Lexer → Scanning (Token × Cursor)) : Scanning Lexer := do
  let lexer ← lexer.saveKey
  let (token, cursor) ← read lexer
  return ({ lexer with cursor }.allowKey false).push token

def quotedScalar (lexer : Lexer) (single : Bool) : Scanning Lexer :=
  lexer.keyToken fun lexer => do
    let (text, later) ← Scalar.quoted single lexer.size lexer.size [] (lexer.cursor.advance 1)
    return (.scalar text .quoted, later)

def plainScalar (lexer : Lexer) : Scanning Lexer := do
  let lexer ← lexer.saveKey
  let indent := (lexer.indent + 1).toNat
  let (text, brokeLine, cursor) ←
    Scalar.plain lexer.inFlow indent lexer.size lexer.size [] (.blanks []) lexer.cursor
  return ({ lexer with cursor }.allowKey brokeLine).push (.scalar text .plain)

def blockScalar (lexer : Lexer) (literal : Bool) : Scanning Lexer := do
  let lexer ← lexer.forgetKey
  let (text, cursor) ← Scalar.block literal lexer.indent lexer.size (lexer.cursor.advance 1)
  return ({ lexer with cursor }.allowKey true).push (.scalar text (if literal then .literal else .folded))

-- What stands at the start of a line on its own and ends every open collection.
def betweenDocuments (lexer : Lexer) (read : Cursor → Scanning (Token × Cursor)) : Scanning Lexer := do
  let lexer ← (lexer.closeBlocks (-1)).forgetKey
  let (token, cursor) ← read lexer.cursor
  return ({ lexer with cursor }.allowKey false).push token

def finish (lexer : Lexer) : Scanning Lexer := (lexer.closeBlocks (-1)).forgetKey

def indicators : List Char := "-?:,[]{}#&*!|>'\"%@\x60".toList

def beginsPlain (lexer : Lexer) (c : Char) : Bool :=
  let next := lexer.cursor.peek? 1
  !(isSpaceOrTab c || c ∈ indicators) || (c == '-' && !next.any isSpaceOrTab) ||
    (!lexer.inFlow && (c == '?' || c == ':') && !lexer.cursor.blankAt 1)

-- One token, and those that its place makes visible.
def step (lexer : Lexer) (c : Char) : Scanning Lexer :=
  let cursor := lexer.cursor
  let alone := lexer.inFlow || cursor.blankAt 1
  if cursor.column == 0 && c == '%' then lexer.betweenDocuments readDirective
  else if cursor.atMark '-' then lexer.betweenDocuments fun cursor => .ok (.documentStart, cursor.advance 3)
  else if cursor.atMark '.' then lexer.betweenDocuments fun cursor => .ok (.documentEnd, cursor.advance 3)
  else if c == '[' then lexer.openFlow .flowSequence
  else if c == '\x7b' then lexer.openFlow .flowMapping
  else if c == ']' then lexer.closeFlow .flowSequenceEnd
  else if c == '\x7d' then lexer.closeFlow .flowMappingEnd
  else if c == ',' then lexer.flowEntry
  else if c == '-' && cursor.blankAt 1 then lexer.blockEntry
  else if c == '?' && alone then lexer.explicitKey
  else if c == ':' && alone then lexer.value
  else if c == '*' then
    lexer.keyToken fun lexer => (readName lexer.cursor).map fun (name, later) => (.reference name, later)
  else if c == '&' then
    lexer.keyToken fun lexer => (readName lexer.cursor).map fun (name, later) => (.anchor name, later)
  else if c == '!' then lexer.keyToken readTag
  else if c == '|' && !lexer.inFlow then lexer.blockScalar true
  else if c == '>' && !lexer.inFlow then lexer.blockScalar false
  else if c == '\'' then lexer.quotedScalar true
  else if c == '"' then lexer.quotedScalar false
  else if lexer.beginsPlain c then lexer.plainScalar
  else .error .noTokenBegins

def run : Nat → Lexer → Scanning Lexer
  | 0, _ => .error .unexpectedEnd
  | fuel + 1, lexer => do
    let lexer ← (lexer.skipToToken lexer.size).dropStaleKeys
    let lexer := lexer.closeBlocks lexer.cursor.column
    match lexer.cursor.rest.head? with
    | none => lexer.finish
    | some c => run fuel (← lexer.step c)

end Lexer

def isPrintable (c : Char) : Bool :=
  let n := c.toNat
  n == 0x9 || n == 0xA || n == 0xD || (0x20 ≤ n && n ≤ 0x7E) || n == 0x85 ||
    (0xA0 ≤ n && n ≤ 0xFFFD) || 0x10000 ≤ n

def Token.ofText (s : String) : Scanning (List Token) := do
  let cs := s.toList
  if !cs.all isPrintable then throw .forbiddenCharacter
  let size := cs.length + 1
  let lexer ← Lexer.run size { cursor := { rest := cs }, size }
  return lexer.tokens.reverse

end RealmPlan.Yaml
