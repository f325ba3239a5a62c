import RealmPlan.Execution
import RealmPlan.Log
import RealmPlan.Planning

namespace RealmPlan.Events
open Log

-- What planning and execution say while they work.

def reconciler : String := root ++ "::controller::reconciler"
def planning : String := reconciler ++ "::reconcile"
def roles : String := reconciler ++ "::roles"
def runner : String := root ++ "::controller::runner"

def planSpan (resource : Resource) : Span where
  name := "reconciler.plan"
  target := planning
  fields := [
    ("resource.name", .quoted (resource.metadata.name.getD "unknown")),
    ("resource.namespace", .quoted resource.namespaceName),
    ("client.id", .plain resource.clientId)]

def ofRoles (declared observed : List Role) : List Event :=
  ((Role.Change.all declared observed).filterMap (·.note?)).map fun note =>
    { level := .debug, target := roles, message := note }

def ofPlanning (resource : Resource) (observation : Observation) : List Event :=
  let debug (message : String) : Event := { level := .debug, target := planning, message }
  let events :=
    if resource.beingDeleted then [debug "Resource marked for deletion, planning client removal only"]
    else
      let plan := resource.plan observation
      let size := plan.length
      ofRoles resource.spec.roles observation.roles ++
        [debug (s!"Planned {size} actions: " ++ (Plan.summary plan).text)]
  events.map fun event => { event with span := some (planSpan resource) }

def ofAttempt (attempt : Attempt) : Event :=
  match attempt.outcome with
  | .ok _ => { level := .debug, target := runner, message := "Applied: " ++ attempt.action.message }
  | .error fault =>
    { level := .error
      target := runner
      message := "Failed to " ++ attempt.action.message ++ ": " ++ fault.text }

def ending : Execution → Event
  | .finished attempts =>
    let report := Report.ofAttempts attempts
    let succeeded := report.succeeded
    let failed := report.failures.length
    { level := .info, target := runner, message := s!"Executed plan: {succeeded} succeeded, {failed} failed" }
  | .halted _ _ fault =>
    { level := .warn
      target := runner
      message := "Keycloak availability check failed, skipping plan: " ++ fault.text }

def executeSpan (plan : Plan) : Span where
  name := "reconciler.execute"
  target := runner
  fields := [("actions", .count plan.length)]

def ofExecution (plan : Plan) (execution : Execution) : List Event :=
  let attempts := match execution with
    | .finished attempts => attempts
    | .halted attempts _ _ => attempts
  (attempts.map ofAttempt ++ [ending execution]).map fun event =>
    { event with span := some (executeSpan plan) }

end RealmPlan.Events
