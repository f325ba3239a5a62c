import RealmPlan.Log.Filter
import RealmPlan.Text.Quoted

namespace RealmPlan.Log

-- An event as it is written, without the time in front.
inductive Line where
  | text (line : String)
  | record (value : Json)

namespace Line

-- A piece of a line in a style of its own, or as it is.
def styled (colored : Bool) (code : String) (s : String) : String :=
  if colored then "\x1b[" ++ code ++ "m" ++ s ++ "\x1b[0m" else s

def colorCode : Level → String
  | .error => "31"
  | .warn => "33"
  | .info => "32"
  | .debug => "34"
  | .trace => "35"

-- A message must not steer the terminal that shows it.
def shield (c : Char) : List Char :=
  if c == '\x1b' then "\\x1b".toList
  else if c == '\x07' then "\\x07".toList
  else if c == '\x08' then "\\x08".toList
  else if c == '\x0c' then "\\x0c".toList
  else if c == '\x7f' then "\\x7f".toList
  else if 0x80 ≤ c.toNat && c.toNat ≤ 0x9f then ['\\', 'u', '\x7b'] ++ Text.hexDigits c.toNat ++ ['\x7d']
  else [c]

def shielded (s : String) : String := String.ofList (s.toList.flatMap shield)

def fieldText : FieldValue → String
  | .quoted value => Text.quote value
  | .plain value => value
  | .count value => toString value

def fieldJson : FieldValue → Json
  | .quoted value => .text value
  | .plain value => .text value
  | .count value => .ofNat value

def bold : String := "1"
def dim : String := "2"
def italic : String := "3"

def spanText (colored : Bool) (span : Span) : String :=
  let field (name : String) (value : FieldValue) : String :=
    styled colored italic name ++ styled colored dim "=" ++ fieldText value
  let fields := " ".intercalate (span.fields.map fun (name, value) => field name value)
  styled colored bold span.name ++ styled colored bold "\x7b" ++ fields ++ styled colored bold "\x7d" ++
    styled colored dim ":" ++ " "

def ofText (colored : Bool) (event : Event) : Line :=
  let level := styled colored (colorCode event.level) (Text.padLeft 5 event.level.name)
  let span := (event.span.map (spanText colored)).getD ""
  .text (level ++ " " ++ span ++ styled colored dim event.target ++ styled colored dim ":" ++ " " ++
    shielded event.message)

def spanJson (span : Span) : Json :=
  .ofEntries (("name", .text span.name) :: span.fields.map fun (name, value) => (name, fieldJson value))

def ofJson (event : Event) : Line :=
  .record (.object (
    [("fields", .object [("message", .text event.message)]),
     ("level", .text event.level.name)] ++
    Json.field? "span" spanJson event.span ++
    Json.field? "spans" (fun span => .list [spanJson span]) event.span ++
    [("target", .text event.target)]))

end Line

-- Who listens to the events, and how they are written down.
structure Subscriber where
  format : Format
  colored : Bool
  filter : Filter

namespace Subscriber

-- Spans pass the filter on their own, so an event can pass without its span.
def hears (subscriber : Subscriber) (event : Event) : Option Event :=
  if subscriber.filter.passes event then
    some { event with span := event.span.filter subscriber.filter.opens }
  else none

def write (subscriber : Subscriber) (event : Event) : Line :=
  match subscriber.format with
  | .text => .ofText subscriber.colored event
  | .json => .ofJson event

def lines (subscriber : Subscriber) (events : List Event) : List Line :=
  (events.filterMap subscriber.hears).map subscriber.write

end Subscriber
end RealmPlan.Log
