import RealmPlan.Json

namespace RealmPlan.Log

inductive Level where
  | error
  | warn
  | info
  | debug
  | trace
deriving DecidableEq, Repr, Inhabited

namespace Level

def all : List Level := [error, warn, info, debug, trace]

-- A threshold lets through what is not more verbose than itself.
def verbosity : Level → Nat
  | error => 1
  | warn => 2
  | info => 3
  | debug => 4
  | trace => 5

def name : Level → String
  | error => "ERROR"
  | warn => "WARN"
  | info => "INFO"
  | debug => "DEBUG"
  | trace => "TRACE"

end Level

inductive Format where
  | text
  | json
deriving DecidableEq, Repr, Inhabited

-- How a value of a span is written into a line of text.
inductive FieldValue where
  | quoted (value : String)
  | plain (value : String)
  | count (value : Nat)
deriving DecidableEq

-- The work during which an event happens. A span is itself of level info.
structure Span where
  name : String
  target : String
  fields : List (String × FieldValue)
deriving DecidableEq

structure Event where
  level : Level
  -- The part of the program that speaks, as a path.
  target : String
  message : String
  span : Option Span := none
deriving DecidableEq

-- The root of the library's own paths.
def root : String := "keycloak_client_reconciler"

end RealmPlan.Log
