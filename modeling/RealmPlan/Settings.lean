import RealmPlan.Log.Line
import RealmPlan.Text.Numeral

namespace RealmPlan

-- What an operator can set.
structure Settings where
  logLevel : String := "INFO"
  logFormat : Log.Format := .text
  logColor : Bool := false
  metrics : Bool := true
  -- A failed availability check ends the execution of a plan.
  abortOnUnavailable : Bool := true
  -- Roles are written by hand; many more than this are a mistake.
  maxRoles : Nat := 500
deriving DecidableEq, Inhabited

namespace Settings

def flag (value : Option String) (default : Bool) : Bool :=
  match value with
  | some word => Text.lower word ∈ ["true", "1", "yes", "on"]
  | none => default

-- A word that names no format means text, a limit that is no number means the standing one.
def ofVariables (lookup? : String → Option String) : Settings :=
  let standing : Settings := {}
  { logLevel := (lookup? "LOG_LEVEL").getD standing.logLevel
    logFormat := match lookup? "LOG_FORMAT" with
      | some word => if Text.lower word = "json" then .json else .text
      | none => standing.logFormat
    logColor := flag (lookup? "LOG_ENABLE_COLOR") standing.logColor
    metrics := flag (lookup? "ENABLE_METRICS") standing.metrics
    abortOnUnavailable := flag (lookup? "ABORT_ON_UNAVAILABLE") standing.abortOnUnavailable
    maxRoles := ((lookup? "MAX_ROLES_PER_CLIENT").bind Text.word64?).getD standing.maxRoles }

def subscriber (settings : Settings) (directives : Option String) : Log.Subscriber where
  format := settings.logFormat
  colored := settings.logColor
  filter := .choose directives settings.logLevel

end Settings
end RealmPlan
