import RealmPlan.Log.Condition

namespace RealmPlan.Log

-- The most verbose level that passes; nothing passes where there is none.
abbrev Threshold := Option Level

namespace Threshold

def verbosity (threshold : Threshold) : Nat := (threshold.map Level.verbosity).getD 0

def allows (threshold : Threshold) (level : Level) : Bool := level.verbosity ≤ threshold.verbosity

def max (a b : Threshold) : Threshold := if a.verbosity < b.verbosity then b else a

def maximum (thresholds : List Threshold) : Threshold := thresholds.foldl max none

def word : Threshold → String
  | none => "off"
  | some level => level.name.toLower

def ofVerbosity? : Nat → Option Threshold
  | 0 => some none
  | n => (Level.all.find? fun level => level.verbosity == n).map some

-- A level by its number, or by its name in letters of either case.
def parse? (s : String) : Option Threshold :=
  match Text.word64? s with
  | some n => ofVerbosity? n
  | none => (none :: Level.all.map some).find? fun threshold => threshold.word == s.toLower

end Threshold

-- A threshold for what happens under a target, in a span of a name, or with a field.
structure Directive where
  target : Option String := none
  span : Option String := none
  condition : Option Condition := none
  threshold : Threshold := some .trace
deriving Inhabited

namespace Directive

-- Where a reader of a directive is, and where the piece began that it is in.
inductive Stage where
  | start
  | word (start : Nat)
  | span (start : Nat)
  | field (start : Nat)
  | fieldEnd
  | spanEnd
  | level (start : Nat)
deriving Inhabited

-- The characters whose places in the written bytes lie in a range.
def slice (from_ until_ : Nat) (cs : List Char) : String :=
  let place (before : Nat) (c : Char) : Nat := before + c.utf8Size
  let rec kept (before : Nat) : List Char → List Char
    | [] => []
    | c :: rest =>
      if from_ ≤ before && before < until_ then c :: kept (place before c) rest
      else kept (place before c) rest
  String.ofList (kept 0 cs)

def mayBegin (c : Char) : Bool := c == '-' || c == ':' || c == '_' || Text.isAlphanumeric c

-- One character further; `written` holds the piece of the text between two places.
def step? (written : Nat → Nat → String) (stage : Stage) (place : Nat) (c : Char)
    (directive : Directive) : Option (Stage × Directive) :=
  match stage, c with
  | .start, '[' => some (.span (place + 1), directive)
  | .start, c => if mayBegin c then some (.word place, directive) else none
  | .word start, '=' => some (.level (place + 1), { directive with target := written start place })
  | .word start, '[' => some (.span (place + 1), { directive with target := written start place })
  | .word start, _ => some (.word start, directive)
  | .span start, ']' => some (.spanEnd, { directive with span := written start place })
  | .span start, '\x7b' =>
    let name := written start place
    some (.field (place + 1), { directive with span := if name.isEmpty then none else some name })
  | .span start, _ => some (.span start, directive)
  | .field start, '\x7d' => do
    let name := written start place
    if name.isEmpty then none
    else some (.fieldEnd, { directive with condition := ← Condition.parse? name })
  | .field start, _ => some (.field start, directive)
  | .fieldEnd, ']' => some (.spanEnd, directive)
  | .fieldEnd, _ => none
  | .spanEnd, '=' => some (.level (place + 1), directive)
  | .spanEnd, _ => none
  | .level start, _ => some (.level start, directive)

def steps? (written : Nat → Nat → String) :
    Stage → Nat → Directive → List Char → Option (Stage × Directive)
  | stage, _, directive, [] => some (stage, directive)
  | stage, place, directive, c :: rest => do
    let (stage, directive) ← step? written stage place c directive
    steps? written stage (place + c.utf8Size) directive rest

-- A word alone is a level, or a target that everything passes for; so is a target with nothing
-- behind its sign.
def finish? (written : Nat → String) (stage : Stage) (directive : Directive) : Option Directive :=
  match stage with
  | .word start =>
    match Threshold.parse? (written start) with
    | some threshold => some { directive with threshold }
    | none => some { directive with target := some (written start) }
  | .level start =>
    if (written start).isEmpty then some directive
    else (Threshold.parse? (written start)).map fun threshold => { directive with threshold }
  | .spanEnd => some directive
  | _ => none

-- Blanks around a directive are stepped over, yet places are counted from the first of them.
def parse? (s : String) : Option Directive := do
  let cs := s.toList
  let inner := (Text.dropBlanks (Text.dropBlanks cs).reverse).reverse
  let (stage, directive) ← steps? (slice · · cs) .start 0 {} inner
  finish? (slice · s.utf8ByteSize cs) stage directive

def text (directive : Directive) : String :=
  let field := match directive.condition with
    | some condition => "\x7b" ++ condition.text ++ "\x7d"
    | none => ""
  let inner := directive.span.getD "" ++ field
  let scope :=
    if directive.span.isSome || directive.condition.isSome then "[" ++ inner ++ "]" else ""
  let whom := directive.target.getD "" ++ scope
  if directive.target.isNone && scope.isEmpty then directive.threshold.word
  else whom ++ "=" ++ directive.threshold.word

def orderBy {α : Type} (order : α → α → Ordering) : Option α → Option α → Ordering
  | none, none => .eq
  | none, some _ => .lt
  | some _, none => .gt
  | some a, some b => order a b

-- How much a directive asks for: first the length of its target, then a span, then a field.
def order (a b : Directive) : Ordering :=
  (orderBy compare (a.target.map String.utf8ByteSize) (b.target.map String.utf8ByteSize)).then <|
  (compare a.span.isSome b.span.isSome).then <|
  (compare a.condition.isSome b.condition.isSome).then <|
  (orderBy compare a.target b.target).then <|
  (orderBy compare a.span b.span).then <|
  orderBy Condition.order a.condition b.condition

def concernsTarget (directive : Directive) (target : String) : Bool :=
  directive.target.all fun start => start.toList.isPrefixOf target.toList

-- An event has a message and no other field.
def concernsEvent (directive : Directive) (event : Event) : Bool :=
  directive.concernsTarget event.target && directive.condition.all (·.field == "message")

-- Whether a span is of the kind that a directive means, whatever the values of its fields.
def concernsSpan (directive : Directive) (span : Span) : Bool :=
  directive.concernsTarget span.target && directive.span.all (· == span.name) &&
    directive.condition.all fun condition => (span.fields.lookup condition.field).isSome

def holdsIn (directive : Directive) (span : Span) : Bool :=
  directive.condition.all (·.holds span.fields)

-- A directive that needs no span to be open.
def isStanding (directive : Directive) : Bool :=
  directive.span.isNone && directive.condition.all (·.wanted.isNone)

-- A directive that opens with a span and closes with it.
def isBound (directive : Directive) : Bool := directive.span.isSome || directive.condition.isSome

end Directive
end RealmPlan.Log
