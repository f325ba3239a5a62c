import RealmPlan.Proofs.Answers

namespace RealmPlan

theorem Attempt.not_failed_iff {attempt : Attempt} : attempt.failed = false ↔ attempt.outcome = .ok () := by
  rcases attempt with ⟨_, _ | _⟩ <;> simp [Attempt.failed, Except.isOk, Except.toBool]

namespace Report

variable {attempts : List Attempt}

theorem failure?_eq_none_iff {attempt : Attempt} : failure? attempt = none ↔ attempt.failed = false := by
  rcases attempt with ⟨_, _ | _⟩ <;> simp [failure?, Attempt.failed, Except.isOk, Except.toBool]

theorem failures_length (attempts : List Attempt) :
    (ofAttempts attempts).failures.length = attempts.countP Attempt.failed := by
  have noted : (fun attempt => (failure? attempt).isSome) = Attempt.failed := by
    funext attempt
    cases failed : attempt.failed with
    | false => rw [failure?_eq_none_iff.mpr failed, Option.isSome_none]
    | true =>
      rw [Option.isSome_iff_ne_none, Ne, failure?_eq_none_iff, failed]
      simp
  rw [ofAttempts, List.length_filterMap_eq_countP, noted]

-- The failures that are reported are the calls that failed.
theorem failures_countP (attempts : List Attempt) (kind : Operation.Kind) :
    (ofAttempts attempts).failures.countP (·.kind == kind) =
      attempts.countP fun attempt => attempt.action.kind == kind && attempt.failed := by
  rw [ofAttempts, List.countP_filterMap]
  congr 1
  funext attempt
  rcases attempt with ⟨action, _ | _⟩ <;> simp [failure?, Attempt.failed, Except.isOk, Except.toBool]

-- Every attempt is counted once, as what it came to.
theorem succeeded_add_failures (attempts : List Attempt) :
    (ofAttempts attempts).succeeded + (ofAttempts attempts).failures.length = attempts.length := by
  have counted := List.length_eq_countP_add_countP Attempt.failed (l := attempts)
  rw [failures_length, Nat.add_comm, counted, ofAttempts]
  simp

theorem failures_eq_nil_iff :
    (ofAttempts attempts).failures = [] ↔ ∀ attempt ∈ attempts, attempt.outcome = .ok () := by
  rw [ofAttempts, List.filterMap_eq_nil_iff]
  simp only [failure?_eq_none_iff, Attempt.not_failed_iff]

-- The first failure that is listed is the earliest one.
theorem first_failure {first : Failure} {rest : List Failure}
    (listed : (ofAttempts attempts).failures = first :: rest) :
    ∃ before action fault after, attempts = before ++ ⟨action, .error fault⟩ :: after ∧
      (∀ attempt ∈ before, attempt.outcome = .ok ()) ∧ first = ⟨action.kind, action.message, fault.text⟩ := by
  obtain ⟨before, ⟨action, outcome⟩, after, split, clean, noted, _⟩ := List.filterMap_eq_cons_iff.mp listed
  cases outcome with
  | ok _ => cases noted
  | error fault =>
    refine ⟨before, action, fault, after, split, fun attempt member => ?_, (Option.some.inj noted).symm⟩
    exact Attempt.not_failed_iff.mp (failure?_eq_none_iff.mp (clean attempt member))

theorem status_of_success {report : Report} (success : report.failures = []) (secretName : Option String) :
    (report.status secretName).phase = some .reconciled ∧ (report.status secretName).ready = true := by
  rw [status, success]
  exact ⟨rfl, rfl⟩

theorem status_of_failure {report : Report} {first : Failure} {rest : List Failure}
    (listed : report.failures = first :: rest) (secretName : Option String) :
    (report.status secretName).phase = some .failing ∧ (report.status secretName).ready = false ∧
      (report.status secretName).message =
        some (s!"{report.failures.length} of {report.succeeded + report.failures.length} actions failed, first: " ++
          first.message ++ ": " ++ first.error) := by
  rw [status, listed]
  simp [Nat.add_comm]

theorem status_ready_iff (report : Report) (secretName : Option String) :
    (report.status secretName).ready = true ↔ (report.status secretName).phase = some .reconciled := by
  cases listed : report.failures with
  | nil => simp [status_of_success listed secretName]
  | cons first rest => simp [status_of_failure listed secretName]

theorem status_reconciled_iff (attempts : List Attempt) (secretName : Option String) :
    ((ofAttempts attempts).status secretName).phase = some .reconciled ↔
      ∀ attempt ∈ attempts, attempt.outcome = .ok () := by
  rw [← failures_eq_nil_iff]
  cases listed : (ofAttempts attempts).failures with
  | nil => simp [status_of_success listed secretName]
  | cons first rest => simp [status_of_failure listed secretName]

theorem status_not_ready {attempts : List Attempt} {secretName : Option String}
    (unready : ((ofAttempts attempts).status secretName).ready = false) :
    ((ofAttempts attempts).status secretName).phase = some .failing ∧
      ∃ before action fault after, attempts = before ++ ⟨action, .error fault⟩ :: after ∧
        (∀ attempt ∈ before, attempt.outcome = .ok ()) ∧
        ((ofAttempts attempts).status secretName).message =
          some (toString (attempts.countP Attempt.failed) ++ " of " ++ toString attempts.length ++
            " actions failed, first: " ++ action.message ++ ": " ++ fault.text) := by
  cases listed : (ofAttempts attempts).failures with
  | nil =>
    rw [(status_of_success listed secretName).2] at unready
    cases unready
  | cons first rest =>
    obtain ⟨phase, _, message⟩ := status_of_failure listed secretName
    obtain ⟨before, action, fault, after, split, clean, rfl⟩ := first_failure listed
    rw [succeeded_add_failures, failures_length] at message
    exact ⟨phase, before, action, fault, after, split, clean, message⟩

end Report

namespace Execution

-- What is published about a resource when an execution has ended, in whatever way.
def status (execution : Execution) (secretName : Option String) : Status :=
  match execution.report with
  | .ok report => report.status secretName
  | .error refusal => refusal.status

theorem order_of_mutating {plan : Plan} (mutating : ∀ action ∈ plan, action.isMutating) :
    order (Pass.ping :: plan) = Pass.ping :: plan := by
  have checks : Plan.ofKind (Pass.ping :: plan) .ping = Pass.ping :: Plan.ofKind plan .ping := rfl
  have changes : (Pass.ping :: plan).filter Action.isMutating = plan.filter Action.isMutating := rfl
  rw [order, checks, changes, no_checks mutating, List.filter_eq_self.mpr mutating]
  rfl

end Execution

namespace Pass

variable (pass : Pass) (observation : Observation)

theorem clientAction_mutating : (pass.clientAction observation).isMutating := by
  unfold clientAction
  split <;> rfl

theorem secretAction_mutating : (pass.secretAction observation).isMutating := by
  unfold secretAction
  split <;> rfl

end Pass

namespace Execution

-- A plan for a resource has its only check in front, so it is called as it stands.
theorem order_of_plan (resource : Resource) (observation : Observation) :
    order (resource.plan observation) = resource.plan observation := by
  unfold Resource.plan
  dsimp only
  split
  · apply order_of_mutating
    intro action member
    rw [List.mem_singleton.mp member]
    rfl
  · apply order_of_mutating
    intro action member
    rcases List.mem_cons.mp member with rfl | member
    · exact Pass.clientAction_mutating _ _
    · rcases List.mem_cons.mp member with rfl | member
      · exact Pass.secretAction_mutating _ _
      · exact Pass.rolePlan_mutating _ _ _ action member

variable {transport : Transport} {plan : Plan} {execution : Execution}

-- Whatever is published, it says ready only behind calls that all succeeded.
theorem Ending.clean_of_ready (ending : Ending transport plan execution) {secretName : Option String}
    (ready : (execution.status secretName).ready = true) :
    ∀ attempt ∈ answers transport execution.called, attempt.outcome = .ok () := by
  cases ending with
  | finished =>
    rw [answers_called_finished]
    exact (Report.status_reconciled_iff _ secretName).mp ((Report.status_ready_iff _ secretName).mp ready)
  | halted => cases ready

-- For an execution that ends with a report, the report accounts for every action of the plan, and the status that
-- is made from it is ready exactly when all of them were called and succeeded. Else it tells how many calls
-- failed, and the earliest one. An execution that is ended by a check is published as such, and never as ready.
theorem report_tells_outcome (transport : Transport) (abortOnUnavailable : Bool) (plan : Plan)
    (secretName : Option String) :
    (∀ report, (run transport abortOnUnavailable plan).report = .ok report →
      (run transport abortOnUnavailable plan).called = order plan ∧
      report.succeeded + report.failures.length = plan.length ∧
      report.failures = ((answers transport (order plan)).filterMap fun attempt =>
        match attempt.outcome with
        | .ok _ => none
        | .error fault => some ⟨attempt.action.kind, attempt.action.message, fault.text⟩) ∧
      ((report.status secretName).ready = true ↔ (report.status secretName).phase = some .reconciled) ∧
      ((report.status secretName).phase = some .reconciled ↔
        (run transport abortOnUnavailable plan).called.Perm plan ∧
          ∀ attempt ∈ answers transport (run transport abortOnUnavailable plan).called, attempt.outcome = .ok ()) ∧
      ((report.status secretName).ready = false →
        (report.status secretName).phase = some .failing ∧
        ∃ before action fault after,
          answers transport (order plan) = before ++ ⟨action, .error fault⟩ :: after ∧
          (∀ attempt ∈ before, attempt.outcome = .ok ()) ∧
          (report.status secretName).message =
            some (toString ((answers transport (order plan)).countP Attempt.failed) ++ " of " ++
              toString plan.length ++ " actions failed, first: " ++ action.message ++ ": " ++ fault.text))) ∧
    (∀ refusal, (run transport abortOnUnavailable plan).report = .error refusal →
      refusal.status.phase = some .unavailable ∧ refusal.status.ready = false) ∧
    (((run transport abortOnUnavailable plan).status secretName).ready = true →
      ∀ attempt ∈ answers transport (run transport abortOnUnavailable plan).called, attempt.outcome = .ok ()) ∧
    ∀ resource observation, order (Resource.plan resource observation) = Resource.plan resource observation := by
  have ending := run_ending transport abortOnUnavailable plan
  refine ⟨?_, ?_, ending.clean_of_ready, order_of_plan⟩
  · intro report reported
    obtain ⟨ran, rfl⟩ := ending.of_report reported
    have called : (run transport abortOnUnavailable plan).called = order plan := by
      rw [ran, Execution.called, answers_actions]
    have length : (answers transport (order plan)).length = plan.length := by
      rw [answers_length, (order_perm plan).length_eq]
    rw [called]
    refine ⟨rfl, by rw [Report.succeeded_add_failures, length], rfl, Report.status_ready_iff _ _, ?_, ?_⟩
    · rw [Report.status_reconciled_iff]
      exact ⟨fun clean => ⟨order_perm plan, clean⟩, And.right⟩
    · intro unready
      rw [← length]
      exact Report.status_not_ready unready
  · intro refusal refused
    cases ran : run transport abortOnUnavailable plan with
    | finished _ =>
      rw [ran] at refused
      cases refused
    | halted _ _ fault =>
      rw [ran] at refused
      cases refused
      exact ⟨rfl, rfl⟩

-- The check and the last of three calls fail. Unless the check ends it all, the check is the first to be told of,
-- though it is not the first of the plan.
theorem report_tells_outcome_two_faults :
    let role := Role.named "reader"
    let pass := Pass.of {} default
    let plan := [pass.createRole role, Pass.ping, pass.deleteRole role]
    let transport : Transport := fun earlier _ => if earlier.length = 1 then .ok () else .error ⟨["gone", "reset"]⟩
    (∃ report, (run transport false plan).report = .ok report ∧ report.succeeded + report.failures.length = 3 ∧
      (report.status none).ready = false ∧ (report.status none).phase = some .failing ∧
      (report.status none).message =
        some "2 of 3 actions failed, first: check if keycloak is available: gone: reset") ∧
    ∃ refusal, (run transport true plan).report = .error refusal ∧ refusal.status.phase = some .unavailable := by
  intro role pass plan transport
  have answered : answers transport (order plan) =
      [⟨Pass.ping, .error ⟨["gone", "reset"]⟩⟩, ⟨pass.createRole role, .ok ()⟩,
        ⟨pass.deleteRole role, .error ⟨["gone", "reset"]⟩⟩] := rfl
  constructor
  · refine ⟨_, rfl, ?_⟩
    obtain ⟨_, accounted, _, _, _, failing⟩ := (report_tells_outcome transport false plan none).1 _ rfl
    have unready : ((Report.ofAttempts (answers transport (order plan))).status none).ready = false := rfl
    obtain ⟨phase, before, action, fault, after, split, clean, message⟩ := failing unready
    refine ⟨accounted, unready, phase, message.trans ?_⟩
    rw [answered] at split ⊢
    cases before with
    | nil =>
      cases split
      decide +kernel
    | cons first _ =>
      have succeeded := clean first List.mem_cons_self
      rw [← (List.cons.inj split).1] at succeeded
      cases succeeded
  · exact ⟨_, rfl, ((report_tells_outcome transport true plan none).2.1 _ rfl).1⟩

end Execution
end RealmPlan
