import RealmPlan.Log.Pattern

namespace RealmPlan.Log.Pattern

-- How the rest of a group is meant.
structure Manner where
  anyCase : Bool := false
  -- Lines have a start and an end of their own.
  everyLine : Bool := false
  -- A dot stands for a line break too.
  acrossLines : Bool := false
  -- Repetitions prefer fewer rounds, and more where they are marked.
  swapped : Bool := false
  -- Blanks and comments do not count.
  spaced : Bool := false
  -- A carriage return ends a line too.
  returns : Bool := false
  -- Letters, digits and blanks are those of plain ASCII.
  narrow : Bool := false
deriving Inhabited

def Manner.set? (manner : Manner) (flag : Char) (value : Bool) : Option Manner :=
  match flag with
  | 'i' => some { manner with anyCase := value }
  | 'm' => some { manner with everyLine := value }
  | 's' => some { manner with acrossLines := value }
  | 'U' => some { manner with swapped := value }
  | 'x' => some { manner with spaced := value }
  | 'R' => some { manner with returns := value }
  | 'u' => some { manner with narrow := !value }
  | _ => none

def Manner.letter (manner : Manner) (letter : Letter) : Letter :=
  if manner.anyCase then .inAnyCase manner.narrow letter else letter

structure Source where
  rest : List Char
  manner : Manner := {}
  names : List (List Char) := []

abbrev Scan (α : Type) := StateT Source Option α

namespace Scan

def peek? : Scan (Option Char) := return (← get).rest.head?

def moveTo (rest : List Char) : Scan Unit := modify fun source => { source with rest }

def next : Scan Char := do
  match (← get).rest with
  | c :: rest => moveTo rest; return c
  | [] => failure

def accept (c : Char) : Scan Bool := do
  match (← get).rest with
  | c' :: rest => if c' == c then moveTo rest; return true else return false
  | [] => return false

-- A comment ends with its line.
def behindSpace : Nat → List Char → List Char
  | 0, cs => cs
  | fuel + 1, cs =>
    match cs with
    | '#' :: rest => behindSpace fuel ((rest.dropWhile (· != '\n')).drop 1)
    | c :: rest => if Text.isBlank c then behindSpace fuel rest else cs
    | [] => []

-- What comes next, where blanks may stand before it.
def ahead (cs : List Char) : Scan (List Char) := do
  return if (← get).manner.spaced then behindSpace cs.length cs else cs

def skipSpace : Scan Unit := do moveTo (← ahead (← get).rest)

end Scan

open Scan

-- A number of so many digits, each of which blanks may follow.
def hexNumber : Nat → Nat → Scan Nat
  | 0, n => return n
  | count + 1, n => do
    let digit ← StateT.lift (Text.digitIn? 16 (← next))
    skipSpace
    hexNumber count (16 * n + digit)

def character (n : Nat) : Scan Char := if n.isValidChar then return Char.ofNat n else failure

-- What stands behind a backslash.
inductive Escaped where
  | exactly (c : Char)
  | letter (letter : Letter)
  | place (condition : Between)
deriving Inhabited

-- Without its complement a narrow class has no meaning outside of plain ASCII, so inside of brackets
-- only the brackets as a whole are judged.
def classed (inBrackets negated : Bool) (wide narrow : Letter) : Scan Escaped := do
  let manner := (← get).manner
  if manner.narrow && negated && !inBrackets then failure
  let letter := if manner.narrow then narrow else wide
  return .letter (if negated then .except letter else letter)

def category (negated : Bool) : Scan Escaped := do
  skipSpace
  let kind ← StateT.lift (Text.Category.named? (← next).toLower)
  skipSpace
  let manner := (← get).manner
  if manner.narrow then failure
  let letter := manner.letter (.category kind)
  return .letter (if negated then .except letter else letter)

def wordPlace (condition : Between) : Scan Escaped := do
  if (← get).manner.narrow then return .place condition else failure

-- Behind the backslash. Punctuation stands for itself.
def escaped (inBrackets : Bool) : Scan Escaped := do
  let c ← next
  match c with
  | 'x' =>
    skipSpace
    let c ← character (← hexNumber 2 0)
    if (← get).manner.narrow && 0x80 ≤ c.toNat then failure
    return .exactly c
  | 'u' => skipSpace; return .exactly (← character (← hexNumber 4 0))
  | 'U' => skipSpace; return .exactly (← character (← hexNumber 8 0))
  | 'p' => category false
  | 'P' => category true
  | 'd' => classed inBrackets false .digit .narrowDigit
  | 'D' => classed inBrackets true .digit .narrowDigit
  | 's' => classed inBrackets false .blank .narrowBlank
  | 'S' => classed inBrackets true .blank .narrowBlank
  | 'w' => classed inBrackets false .word .narrowWord
  | 'W' => classed inBrackets true .word .narrowWord
  | 'a' => return .exactly '\x07'
  | 'f' => return .exactly '\x0c'
  | 'n' => return .exactly '\n'
  | 'r' => return .exactly '\r'
  | 't' => return .exactly '\t'
  | 'v' => return .exactly '\x0b'
  | 'A' => return .place .start
  | 'z' => return .place .finish
  | 'b' => wordPlace .wordEdge
  | 'B' => wordPlace .noWordEdge
  | '<' => wordPlace .wordStart
  | '>' => wordPlace .wordFinish
  | c => if c.toNat < 0x80 && !c.isAlphanum then return .exactly c else failure

-- The sets of letters that have a name between brackets.
def named? (name : String) : Option Letter :=
  let upper : Letter := .run 'A' 'Z'
  let lower : Letter := .run 'a' 'z'
  match name with
  | "alnum" => some (.among [upper, lower, .narrowDigit])
  | "alpha" => some (.among [upper, lower])
  | "ascii" => some (.run '\x00' '\x7f')
  | "blank" => some (.among [.exactly '\t', .exactly ' '])
  | "cntrl" => some (.among [.run '\x00' '\x1f', .exactly '\x7f'])
  | "digit" => some Letter.narrowDigit
  | "graph" => some (.run '!' '~')
  | "lower" => some lower
  | "print" => some (.run ' ' '~')
  | "punct" => some (.among [.run '!' '/', .run ':' '@', .run '[' '\x60', .run '\x7b' '~'])
  | "space" => some Letter.narrowBlank
  | "upper" => some upper
  | "word" => some Letter.narrowWord
  | "xdigit" => some (.among [.narrowDigit, .run 'A' 'F', .run 'a' 'f'])
  | _ => none

-- A named set, behind the bracket that opens it.
def namedSet? (cs : List Char) : Option (Letter × List Char) := do
  let (negated, cs) ← match cs with
    | ':' :: '^' :: rest => some (true, rest)
    | ':' :: rest => some (false, rest)
    | _ => none
  let name := cs.takeWhile (· != ':')
  match cs.drop name.length with
  | ':' :: ']' :: rest =>
    let letter ← named? (String.ofList name)
    some (if negated then .except letter else letter, rest)
  | _ => none

-- How the letters on both sides of a doubled sign are put together.
def joining? (cs : List Char) : Option ((Letter → Letter → Letter) × List Char) :=
  match cs with
  | '&' :: '&' :: rest => some (.both, rest)
  | '-' :: '-' :: rest => some (fun first second => .both first (.except second), rest)
  | '~' :: '~' :: rest =>
    some (fun first second =>
      .among [.both first (.except second), .both second (.except first)], rest)
  | _ => none

-- One letter between brackets, or an escaped set of them.
def member : Scan (Sum Char Letter) := do
  let c ← next
  let found ← if c == '\\' then escaped true else pure (.exactly c)
  match found with
  | .exactly c => if (← get).manner.narrow && 0x80 ≤ c.toNat then failure else return .inl c
  | .letter letter => return .inr letter
  | .place _ => failure

-- A letter, or all between two letters.
def range : Scan Letter := do
  let low ← member
  skipSpace
  let { rest, .. } ← get
  let behind ← ahead (rest.drop 1)
  if rest.head? == some '-' && !(behind.head?.any (· ∈ [']', '-'])) then
    moveTo behind
    match low, ← member with
    | .inl low, .inl high => if low ≤ high then return .run low high else failure
    | _, _ => failure
  else
    match low with
    | .inl c => return .exactly c
    | .inr letter => return letter

-- Dashes at the start stand for themselves.
def leadingDashes : Nat → Scan Bool
  | 0 => return false
  | fuel + 1 => do
    if ← accept '-' then
      skipSpace
      let _ ← leadingDashes fuel
      return true
    return false

mutual
-- Letters between brackets, behind the opening one. A closing bracket stands for itself where
-- nothing would stand before it.
def bracketed : Nat → Scan Letter
  | 0 => failure
  | fuel + 1 => do
    skipSpace
    let negated ← accept '^'
    skipSpace
    let dashes ← leadingDashes (← get).rest.length
    let bracket ← if dashes then pure false else accept ']'
    let items := if dashes then [Letter.exactly '-'] else if bracket then [.exactly ']'] else []
    let letter ← members id items fuel
    return if negated then .except letter else letter

-- `join` puts the letters together with those in front of the last doubled sign.
def members (join : Letter → Letter) (items : List Letter) : Nat → Scan Letter
  | 0 => failure
  | fuel + 1 => do
    skipSpace
    let { rest, manner, .. } ← get
    let all := join (manner.letter (.among items))
    match rest, joining? rest, namedSet? (rest.drop 1) with
    | ']' :: rest, _, _ => moveTo rest; return manner.letter all
    | _, some (joined, rest), _ =>
      moveTo rest
      members (joined (manner.letter all)) [] fuel
    | '[' :: _, _, some (letter, rest) => moveTo rest; members join (letter :: items) fuel
    | '[' :: rest, _, none =>
      moveTo rest
      let inner ← bracketed fuel
      members join (inner :: items) fuel
    | _, _, _ =>
      let item ← range
      members join (item :: items) fuel
end

-- A set of letters that stands alone. A narrow one is refused if it holds for more than ASCII.
def letterSet : Scan Pattern := do
  let { rest, manner, .. } ← get
  let letter ← bracketed (2 * rest.length + 2)
  if manner.narrow && letter.holds (Char.ofNat 0x80) then failure
  return .one letter

def isNameCharacter (first : Bool) (c : Char) : Bool :=
  c == '_' || if first then Text.isAlphabetic c else c ∈ ['.', '[', ']'] || Text.isAlphanumeric c

-- The name of a group, behind its opening sign. No two groups have one name.
def groupName (cs : List Char) : Scan Unit := do
  let name := cs.takeWhile (· != '>')
  if name.isEmpty || !name.head?.all (isNameCharacter true) then failure
  if !name.tail.all (isNameCharacter false) || name ∈ (← get).names then failure
  match cs.drop name.length with
  | _ :: rest => modify fun source => { source with rest, names := name :: source.names }
  | [] => failure

-- Flags up to a colon or a closing parenthesis, each once; those behind a dash are taken back.
def flags (given : List Char) : Nat → Scan (List Char)
  | 0 => failure
  | fuel + 1 => do
    let c ← next
    if c == ':' || c == ')' then
      if given.head? == some '-' then failure
      return given
    if c ∈ given then failure
    if c != '-' then
      let source ← get
      let manner ← StateT.lift (source.manner.set? c ('-' ∉ given))
      set { source with manner }
    flags (c :: given) fuel

-- Behind an opening parenthesis: whether a group begins, or only its manner changes.
def groupOpening : Scan Bool := do
  skipSpace
  let { rest, .. } ← get
  match rest with
  | '?' :: 'P' :: '<' :: rest => groupName rest; return true
  | '?' :: '<' :: rest => groupName rest; return true
  | '?' :: rest =>
    moveTo rest
    let given ← flags [] (rest.length + 1)
    let closed := (rest.drop given.length).head? == some ')'
    if closed && given.isEmpty then failure
    return !closed
  | _ => return true

-- Signs that repeat what stands before them; a question mark behind one turns its preference.
def repeated (body : Pattern) : Nat → Scan Pattern
  | 0 => return body
  | fuel + 1 => do
    skipSpace
    let { rest, manner, .. } ← get
    match rest with
    | [] => return body
    | c :: rest =>
      if c ∉ ['*', '+', '?'] then return body
      moveTo rest
      let reluctant := (← accept '?') != manner.swapped
      let whole :=
        if c == '*' then Pattern.many reluctant body
        else if c == '+' then body.atLeastOne reluctant
        else body.maybe reluctant
      repeated whole fuel

def lineStart (manner : Manner) : Between := if manner.everyLine then .lineStart manner.returns else .start

def lineFinish (manner : Manner) : Between := if manner.everyLine then .lineFinish manner.returns else .finish

def dot (manner : Manner) : Option Letter :=
  if manner.narrow then none
  else if manner.acrossLines then some .any
  else some (.except (.among (if manner.returns then [.exactly '\r', .exactly '\n'] else [.exactly '\n'])))

mutual
-- Choices, up to the end of the text or of the group.
def choice : Nat → Scan Pattern
  | 0 => failure
  | fuel + 1 => do
    let first ← row fuel
    if ← accept '|' then return .either first (← choice fuel) else return first

def row : Nat → Scan Pattern
  | 0 => failure
  | fuel + 1 => do
    skipSpace
    match ← peek? with
    | none | some '|' | some ')' => return .empty
    | some _ =>
      let first ← atom fuel
      return .both first (← row fuel)

-- What stands at one place, with the signs that repeat it. A manner alone cannot be repeated.
def atom : Nat → Scan Pattern
  | 0 => failure
  | fuel + 1 => do
    let c ← next
    let { manner, .. } ← get
    let again (body : Pattern) : Scan Pattern := do repeated body ((← get).rest.length + 1)
    match c with
    | '(' =>
      if ← groupOpening then
        let body ← choice fuel
        if !(← accept ')') then failure
        modify fun source => { source with manner }
        again body
      else return .empty
    | '[' => again (← letterSet)
    | '\\' =>
      match ← escaped false with
      | .exactly c => again (.one (manner.letter (.exactly c)))
      | .letter letter => again (.one letter)
      | .place condition => again (.between condition)
    | '^' => again (.between (lineStart manner))
    | '$' => again (.between (lineFinish manner))
    | '.' => again (.one (← StateT.lift (dot manner)))
    | c => if c ∈ ['*', '+', '?', '\x7b'] then failure else again (.one (manner.letter (.exactly c)))
end

-- A group is closed where it was opened, and something stands before every sign that repeats.
def parse? (s : String) : Option Pattern := do
  let cs := s.toList
  let (pattern, source) ← (choice (3 * cs.length + 3)).run { rest := cs }
  if source.rest.isEmpty then some pattern else none

end RealmPlan.Log.Pattern
