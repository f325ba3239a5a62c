import RealmPlan.Log.Directive
import RealmPlan.Text.Lowercase

namespace RealmPlan.Log

-- The directives in the order in which they are asked: those that hold everywhere, and those that
-- hold while a span is open. A field alone makes a directive one of either kind.
structure Filter where
  standing : List Directive := []
  bound : List Directive := []
  -- The most verbose threshold of all that were written, also of those that were replaced.
  summit : Threshold := none

namespace Filter

-- The more a directive asks for, the sooner it is asked. A later one that asks for the same replaces
-- the earlier one.
def insert (directives : List Directive) (directive : Directive) : List Directive :=
  let sooner (old : Directive) : Bool := old.order directive == .gt
  let others := directives.filter fun old => old.order directive != .eq
  others.takeWhile sooner ++ directive :: others.dropWhile sooner

-- Those that only stand go before those that are bound to spans as well.
def ofDirectives (directives : List Directive) : Filter :=
  let bound := directives.filter Directive.isBound
  let standing := directives.filter (!·.isBound) ++ bound.filter Directive.isStanding
  { standing := standing.foldl insert []
    bound := bound.foldl insert []
    summit := Threshold.maximum (directives.map (·.threshold)) }

-- Directives stand between commas, and empty ones do not count. Nothing passes where there is none.
def parse? (s : String) : Option Filter := do
  let pieces := (s.splitOn ",").filter (!·.isEmpty)
  return ofDirectives (← pieces.mapM Directive.parse?)

def text (filter : Filter) : String :=
  ",".intercalate ((filter.standing ++ filter.bound).map Directive.text)

-- The most verbose level that can pass at all. Fields have values only in spans that are open, so
-- a filter that asks for a value keeps every span.
def most (filter : Filter) : Threshold :=
  if filter.bound.any fun directive => directive.condition.any (·.wanted.isSome) then some .trace
  else filter.summit

-- The threshold while a span is open, if the span matters to the filter.
def within? (filter : Filter) (span : Span) : Option Threshold :=
  match filter.bound.filter (·.concernsSpan span) with
  | [] => none
  | concerned => some (Threshold.maximum ((concerned.filter (·.holdsIn span)).map (·.threshold)))

def firstAllows (directives : List Directive) (level : Level) : Bool :=
  directives.head?.any (·.threshold.allows level)

def opens (filter : Filter) (span : Span) : Bool :=
  filter.most.allows .info &&
    ((filter.within? span).isSome ||
      firstAllows (filter.standing.filter (·.concernsTarget span.target)) .info)

def passes (filter : Filter) (event : Event) : Bool :=
  firstAllows (filter.standing.filter (·.concernsEvent event)) event.level ||
    event.span.any fun span =>
      filter.opens span && (filter.within? span).any (·.allows event.level)

def standard : Filter := ofDirectives [{ target := some root, threshold := some .info }]

-- The operator's own directives win where they can be read; else the level of the settings applies
-- to this library.
def choose (directives : Option String) (level : String) : Filter :=
  match directives.bind parse? with
  | some filter => filter
  | none => (parse? (root ++ "=" ++ Text.lower level)).getD standard

end Filter
end RealmPlan.Log
