import RealmPlan.Counters

namespace RealmPlan.Counters

-- The counters as a scraper reads them: families by name, each with its help and its samples.
structure Family where
  name : String
  help : String
  -- A sample is the labels in braces, if there are any, and the count.
  samples : List (String × Nat)

def labelChar : Char → List Char
  | '\\' => ['\\', '\\']
  | '"' => ['\\', '"']
  | '\n' => ['\\', 'n']
  | c => [c]

def kindLabel (label : String) : String :=
  "\x7bkind=\"" ++ String.ofList (label.toList.flatMap labelChar) ++ "\"\x7d"

def byKind (tally : Tally) : List (String × Nat) :=
  (Dict.entries tally).map fun (label, count) => (kindLabel label, count)

def families (counters : Counters) : List Family := [
  { name := "keycloak_client_action_failures_total"
    help := "Total number of actions that failed, by kind"
    samples := byKind counters.failed },
  { name := "keycloak_client_actions_executed_total"
    help := "Total number of actions applied successfully, by kind"
    samples := byKind counters.executed },
  { name := "keycloak_client_actions_planned_total"
    help := "Total number of actions planned, by kind"
    samples := byKind counters.planned },
  { name := "keycloak_client_ping_failures_total"
    help := "Total number of failed Keycloak availability checks"
    samples := [("", counters.pingFailures)] },
  { name := "keycloak_client_reconciliations_total"
    help := "Total number of reconciliation planning passes"
    samples := [("", counters.reconciliations)] }]

-- The names do not depend on what was counted.
def familyNames : List String := (families {}).map (·.name)

-- A family without samples is left out.
def Family.lines (family : Family) : List String :=
  if family.samples.isEmpty then []
  else
    ("# HELP " ++ family.name ++ " " ++ family.help) ::
    ("# TYPE " ++ family.name ++ " counter") ::
    family.samples.map fun (labels, count) => family.name ++ labels ++ " " ++ toString count

def exposition (families : List Family) : String :=
  String.join ((families.flatMap Family.lines).map (· ++ "\n"))

end RealmPlan.Counters
