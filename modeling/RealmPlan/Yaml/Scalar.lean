import RealmPlan.Yaml.Cursor

namespace RealmPlan.Yaml

-- The white space between two words of a scalar.
inductive Gap where
  | blanks (cs : List Char)
  -- What the first line break reads as, if it is not escaped, and the breaks behind it.
  | lines (first : List Char) (others : List Char)

namespace Gap

-- One line break is a space, of several the first is dropped.
def folded : Gap → List Char
  | blanks cs => cs
  | lines ['\n'] [] => [' ']
  | lines ['\n'] others => others
  | lines first others => first ++ others

def breaksLine : Gap → Bool
  | blanks _ => false
  | lines .. => true

-- Blanks count as long as they stand on the line of the words before them.
def read (indent : Nat) : Nat → Gap → Cursor → Scanning (Gap × Cursor)
  | 0, gap, cursor => .ok (gap, cursor)
  | fuel + 1, gap, cursor =>
    match cursor.rest with
    | [] => .ok (gap, cursor)
    | c :: _ =>
      if isSpaceOrTab c then
        match gap with
        | blanks cs => read indent fuel (.blanks (cs ++ [c])) (cursor.advance 1)
        | gap =>
          if c == '\t' && cursor.column < indent then .error .tabIndents
          else read indent fuel gap (cursor.advance 1)
      else if isBreak c then
        let (read?, later) := cursor.breakLine
        match gap with
        | blanks _ => read indent fuel (.lines read? []) later
        | lines first others => read indent fuel (.lines first (others ++ read?)) later
      else .ok (gap, cursor)

end Gap

namespace Scalar

def simpleEscape? : Char → Option Char
  | '0' => some '\x00'
  | 'a' => some '\x07'
  | 'b' => some '\x08'
  | 't' => some '\t'
  | '\t' => some '\t'
  | 'n' => some '\n'
  | 'v' => some '\x0b'
  | 'f' => some '\x0c'
  | 'r' => some '\r'
  | 'e' => some '\x1b'
  | ' ' => some ' '
  | '"' => some '"'
  | '/' => some '/'
  | '\\' => some '\\'
  | 'N' => some (Char.ofNat 0x85)
  | '_' => some (Char.ofNat 0xA0)
  | 'L' => some (Char.ofNat 0x2028)
  | 'P' => some (Char.ofNat 0x2029)
  | _ => none

def codeLength : Char → Nat
  | 'x' => 2
  | 'u' => 4
  | 'U' => 8
  | _ => 0

-- The character behind a backslash.
def escape (cursor : Cursor) : Scanning (Char × Cursor) :=
  match cursor.rest with
  | [] => .error .unexpectedEnd
  | c :: rest =>
    match simpleEscape? c with
    | some meant => .ok (meant, cursor.advance 1)
    | none =>
      let length := codeLength c
      let digits := rest.take length
      match Text.numeralIn? 16 digits with
      | some n =>
        if digits.length != length || !n.isValidChar then .error .badEscape
        else .ok (Char.ofNat n, cursor.advance (1 + length))
      | none => .error .badEscape

-- The rest of a quoted scalar behind its opening quote; `done` holds the characters read, last one first.
def quoted (single : Bool) (size : Nat) : Nat → List Char → Cursor → Scanning (String × Cursor)
  | 0, _, _ => .error .unexpectedEnd
  | fuel + 1, done, cursor =>
    if cursor.atAnyMark then .error .misplacedMark
    else match cursor.rest with
      | [] => .error .unexpectedEnd
      | '\'' :: '\'' :: _ =>
        if single then quoted single size fuel ('\'' :: done) (cursor.advance 2)
        else quoted single size fuel ('\'' :: done) (cursor.advance 1)
      | c :: _ =>
        if c == (if single then '\'' else '"') then .ok (String.ofList done.reverse, cursor.advance 1)
        else if c == '\\' && !single then
          let behind := cursor.advance 1
          if behind.atBreak then do
            let (gap, later) ← Gap.read 0 size (.lines [] []) behind.breakLine.2
            quoted single size fuel (gap.folded.reverse ++ done) later
          else do
            let (meant, later) ← escape behind
            quoted single size fuel (meant :: done) later
        else if isSpaceOrTab c || isBreak c then do
          let (gap, later) ← Gap.read 0 size (.blanks []) cursor
          quoted single size fuel (gap.folded.reverse ++ done) later
        else quoted single size fuel (c :: done) (cursor.advance 1)

-- One word of a plain scalar. A colon ends it before white space, and in a collection in brackets
-- the punctuation of the collection does too.
def word (inFlow : Bool) : Nat → List Char → Cursor → Scanning (List Char × Cursor)
  | 0, done, cursor => .ok (done, cursor)
  | fuel + 1, done, cursor =>
    match cursor.rest with
    | [] => .ok (done, cursor)
    | c :: rest =>
      if isSpaceOrTab c || isBreak c then .ok (done, cursor)
      else if inFlow && c == ':' && rest.head?.any (· ∈ [',', '?', '[', ']', '\x7b', '\x7d']) then
        .error .noTokenBegins
      else if c == ':' && cursor.blankAt 1 then .ok (done, cursor)
      else if inFlow && c ∈ [',', '[', ']', '\x7b', '\x7d'] then .ok (done, cursor)
      else word inFlow fuel (c :: done) (cursor.advance 1)

-- A plain scalar, and whether a line break stands behind it.
def plain (inFlow : Bool) (indent size : Nat) :
    Nat → List Char → Gap → Cursor → Scanning (String × Bool × Cursor)
  | 0, done, gap, cursor => .ok (String.ofList done.reverse, gap.breaksLine, cursor)
  | fuel + 1, done, gap, cursor => do
    let stop := (String.ofList done.reverse, gap.breaksLine, cursor)
    if cursor.atAnyMark || cursor.sees '#' then return stop
    let (found, behind) ← word inFlow size [] cursor
    if found.isEmpty then return stop
    let done := found ++ gap.folded.reverse ++ done
    if !(behind.atSpaceOrTab || behind.atBreak) then return (String.ofList done.reverse, false, behind)
    let (gap, later) ← Gap.read indent size (.blanks []) behind
    if !inFlow && later.column < indent then return (String.ofList done.reverse, gap.breaksLine, later)
    plain inFlow indent size fuel done gap later

-- What becomes of the line breaks at the end of a block.
inductive Chomp where
  | clip
  | strip
  | keep
deriving DecidableEq

def chomp? : Option Char → Option Chomp
  | some '+' => some .keep
  | some '-' => some .strip
  | _ => none

-- A digit tells how deep the block is indented, when its first line does not show it.
def depth? (cursor : Cursor) : Scanning (Option Nat × Cursor) :=
  match cursor.rest.head? with
  | some c =>
    if !c.isDigit then .ok (none, cursor)
    else if c == '0' then .error .badBlockHeader
    else .ok (some (Text.digitValue c), cursor.advance 1)
  | none => .ok (none, cursor)

def header (cursor : Cursor) : Scanning (Chomp × Option Nat × Cursor) := do
  match chomp? (cursor.peek? 0) with
  | some chomp =>
    let (depth, later) ← depth? (cursor.advance 1)
    return (chomp, depth, later)
  | none =>
    let (depth, later) ← depth? cursor
    match depth, chomp? (later.peek? 0) with
    | some _, some chomp => return (chomp, depth, later.advance 1)
    | _, _ => return (.clip, depth, later)

-- Empty lines in front of a line of a block. Without a known indentation every space counts, and
-- the deepest line is remembered.
def emptyLines (indent : Option Nat) :
    Nat → Nat → List Char → Cursor → Scanning (Nat × List Char × Cursor)
  | 0, deepest, breaks, cursor => .ok (deepest, breaks, cursor)
  | fuel + 1, deepest, breaks, cursor =>
    let spaces := (cursor.rest.takeWhile (· == ' ')).length
    let within := match indent with
      | some indent => min spaces (indent - cursor.column)
      | none => spaces
    let cursor := cursor.advance within
    let deepest := max deepest cursor.column
    if cursor.sees '\t' && indent.all (cursor.column < ·) then .error .tabIndents
    else if cursor.atBreak then
      let (reads, later) := cursor.breakLine
      emptyLines indent fuel deepest (breaks ++ reads) later
    else .ok (deepest, breaks, cursor)

structure Block where
  done : List Char
  -- The break behind the last line, and the empty lines behind that.
  lastBreak : List Char
  breaks : List Char
  -- The last line began with a blank, so the lines around it keep their breaks.
  indentedMore : Bool

def blockLines (literal : Bool) (indent size : Nat) : Nat → Block → Cursor → Scanning (Block × Cursor)
  | 0, block, cursor => .ok (block, cursor)
  | fuel + 1, block, cursor =>
    if cursor.column != indent || cursor.atEnd then .ok (block, cursor)
    else do
      let blank := cursor.atSpaceOrTab
      let joint :=
        if !literal && block.lastBreak == ['\n'] && !block.indentedMore && !blank then
          if block.breaks.isEmpty then [' '] else block.breaks
        else block.lastBreak ++ block.breaks
      let (text, behind) := cursor.takeWhile (!isBreak ·)
      let (lastBreak, next) := behind.breakLine
      let (_, breaks, later) ← emptyLines (some indent) size 0 [] next
      let done := text.reverse ++ joint.reverse ++ block.done
      blockLines literal indent size fuel { done, lastBreak, breaks, indentedMore := blank } later

-- A block scalar behind its sign; `parent` is the indentation of the collection around it.
def block (literal : Bool) (parent : Int) (size : Nat) (cursor : Cursor) : Scanning (String × Cursor) := do
  let (chomp, depth, cursor) ← header cursor
  let cursor := cursor.skipSpacesAndTabs.skipComment
  if !(cursor.atEnd || cursor.atBreak) then throw .badBlockHeader
  let start := cursor.breakLine.2
  let known := depth.map fun depth => (max parent 0).toNat + depth
  let (deepest, breaks, first) ← emptyLines known size 0 [] start
  let indent := known.getD (max deepest (max (parent + 1) 1).toNat)
  let opening : Block := { done := [], lastBreak := [], breaks, indentedMore := false }
  let (block, later) ← blockLines literal indent size size opening first
  let tail := match chomp with
    | .strip => []
    | .clip => block.lastBreak
    | .keep => block.lastBreak ++ block.breaks
  return (String.ofList (block.done.reverse ++ tail), later)

end Scalar
end RealmPlan.Yaml
