import RealmPlan.Status
import RealmPlan.Violation

namespace RealmPlan

-- Why a pass ended without changing anything.
inductive Refusal where
  | unavailable (fault : String)
  | invalid (violation : Violation)
deriving DecidableEq

namespace Refusal

def message : Refusal → String
  | unavailable fault => "Keycloak is unavailable: " ++ fault
  | invalid violation => "Invalid KeycloakClient: " ++ violation.message

def phase : Refusal → Phase
  | unavailable _ => .unavailable
  | invalid _ => .failing

def status (refusal : Refusal) : Status where
  phase := some refusal.phase
  message := some refusal.message

end Refusal
end RealmPlan
