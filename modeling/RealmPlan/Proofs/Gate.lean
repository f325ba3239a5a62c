import RealmPlan.Proofs.Counting
import RealmPlan.Proofs.Discretion
import RealmPlan.Proofs.Shown

namespace RealmPlan.Command

-- How a planning command refuses a resource.
def refusing (desired : String) (violation : Violation) : Problem :=
  { message := "Refusing to plan " ++ desired, causes := [(Refusal.invalid violation).message, violation.message] }

namespace Invocation
variable {invocation : Invocation} {ending : Except Problem (Resource × Observation)}

-- What a planning command comes to. A fault of the resource is told before the observation is looked at.
inductive Verdict (invocation : Invocation) : Except Problem (Resource × Observation) → Prop where
  | unread {problem : Problem} (fails : loadResource invocation.files invocation.desired = .error problem) :
    Verdict invocation (.error problem)
  | refused {resource : Resource} {violation : Violation}
    (loads : loadResource invocation.files invocation.desired = .ok resource)
    (violates : Violation.first? invocation.settings.maxRoles resource = some violation)
    (insists : invocation.skipValidation = false) :
    Verdict invocation (.error (refusing invocation.desired violation))
  | unobserved {resource : Resource} {path : String} {problem : Problem}
    (loads : loadResource invocation.files invocation.desired = .ok resource) (passes : invocation.Passes resource)
    (named : invocation.observed = some path) (fails : loadObservation invocation.files path = .error problem) :
    Verdict invocation (.error problem)
  | planned {resource : Resource} {observation : Observation} (reads : invocation.Reads resource observation)
    (passes : invocation.Passes resource) : Verdict invocation (.ok (resource, observation))

-- Neither the log nor the format has a part in it.
theorem Verdict.answer (verdict : invocation.Verdict ending) (output : OutputFormat) :
    (plan invocation.files invocation.settings invocation.service invocation.desired invocation.observed output
      invocation.skipValidation).1 = ending.map fun read => shown output read.1 (read.1.plan read.2) := by
  cases verdict with
  | unread fails =>
    unfold plan
    rw [fails]
    rfl
  | refused loads violates insists =>
    unfold plan
    rw [loads]
    simp only [gate, violates, insists, bind, Except.bind]
    rfl
  | unobserved loads passes named fails =>
    obtain ⟨refusal, gated⟩ := gate_of_passes passes
    unfold plan
    rw [loads, named]
    simp only [gated, fails, bind, Except.bind, pure, Except.pure]
    rfl
  | planned reads passes =>
    have printed := printed_eq reads output
    rw [if_pos passes] at printed
    unfold Invocation.printed at printed
    cases answered : (plan invocation.files invocation.settings invocation.service invocation.desired
        invocation.observed output invocation.skipValidation).1 with
    | error problem =>
      rw [answered] at printed
      cases printed
    | ok text =>
      rw [answered] at printed
      exact congrArg Except.ok (Option.some.inj printed)

end Invocation

-- What a new process has set up before it looks at its request.
def begun (lookup? : String → Option String) : Service :=
  let settings := Settings.ofVariables lookup?
  { subscriber := some (settings.subscriber (lookup? "RUST_LOG"))
    registry := if settings.metrics then .complete else {} }

end RealmPlan.Command
