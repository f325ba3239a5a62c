import RealmPlan.Dict
import RealmPlan.Execution

namespace RealmPlan

-- Tallies by label; a label that was never counted is not there.
abbrev Tally := Dict Nat

def Tally.count (tally : Tally) (label : String) : Nat := (Dict.get? tally label).getD 0

def Tally.add (tally : Tally) (label : String) : Tally := Dict.insert tally label (tally.count label + 1)

-- What a process has done since it started.
structure Counters where
  reconciliations : Nat := 0
  planned : Tally := Dict.empty
  executed : Tally := Dict.empty
  failed : Tally := Dict.empty
  pingFailures : Nat := 0

namespace Counters

def countExecuted (counters : Counters) (label : String) : Counters :=
  { counters with executed := counters.executed.add label }

def countFailed (counters : Counters) (label : String) : Counters :=
  { counters with failed := counters.failed.add label }

def countPingFailure (counters : Counters) : Counters :=
  { counters with pingFailures := counters.pingFailures + 1 }

def recordPlan (counters : Counters) (plan : Plan) : Counters :=
  { counters with
    reconciliations := counters.reconciliations + 1
    planned := plan.foldl (fun tally action => tally.add action.kind.label) counters.planned }

-- A failed check counts as a failed check besides.
def recordAttempt (counters : Counters) (attempt : Attempt) : Counters :=
  let label := attempt.action.kind.label
  if attempt.failed then
    let counters := counters.countFailed label
    if attempt.action.kind == .ping then counters.countPingFailure else counters
  else counters.countExecuted label

-- The check that ends an execution is no failure of an action.
def recordExecution (counters : Counters) : Execution → Counters
  | .finished attempts => attempts.foldl recordAttempt counters
  | .halted attempts _ _ => (attempts.foldl recordAttempt counters).countPingFailure

end Counters
end RealmPlan
