import RealmPlan.Execution
import RealmPlan.Planning

namespace RealmPlan.Execution

-- What was attempted: every call has the answer that was given to it behind all calls before it.
inductive Trace (transport : Transport) : List Attempt → Prop where
  | nil : Trace transport []
  | snoc {done : List Attempt} {action : Action} : Trace transport done →
      Trace transport (done ++ [⟨action, transport (done.map (·.action.operation)) action.operation⟩])

variable {transport : Transport} {plan : Plan} {done attempts : List Attempt}

theorem Trace.tryAll {stopsAtFault : Bool} (traced : Trace transport done)
    (finished : tryAll transport stopsAtFault done plan = .finished attempts) : Trace transport attempts := by
  induction plan generalizing done with
  | nil =>
    cases finished
    exact traced
  | cons action rest ih =>
    unfold Execution.tryAll at finished
    dsimp only at finished
    split at finished
    · cases finished
    · exact ih (.snoc traced) finished

-- Without a stop at the first fault every action is attempted, whatever is answered.
theorem tryAll_finishes (transport : Transport) (done : List Attempt) (plan : Plan) :
    ∃ attempts, tryAll transport false done plan = .finished attempts ∧
      attempts.map (·.action) = done.map (·.action) ++ plan := by
  induction plan generalizing done with
  | nil => exact ⟨done, rfl, by simp⟩
  | cons action rest ih =>
    obtain ⟨attempts, finished, actions⟩ :=
      ih (done ++ [⟨action, transport (done.map (·.action.operation)) action.operation⟩])
    refine ⟨attempts, ?_, by simp [actions]⟩
    rw [← finished]
    cases answer : transport (done.map (·.action.operation)) action.operation <;> simp [tryAll, answer]

theorem no_checks (mutating : ∀ action ∈ plan, action.isMutating) : Plan.ofKind plan .ping = [] := by
  apply List.filter_eq_nil_iff.mpr
  intro action member ping
  have changes := mutating action member
  simp only [Action.isMutating, Operation.isMutating, ← Action.kind.eq_def, eq_of_beq ping] at changes
  cases changes

-- Without any check all actions are attempted, in their order.
theorem run_of_mutating (transport : Transport) (abortOnUnavailable : Bool)
    (mutating : ∀ action ∈ plan, action.isMutating) :
    ∃ attempts, run transport abortOnUnavailable plan = .finished attempts ∧
      attempts.map (·.action) = plan ∧ Trace transport attempts := by
  have allMutating : plan.filter Action.isMutating = plan := List.filter_eq_self.mpr mutating
  obtain ⟨attempts, finished, actions⟩ := tryAll_finishes transport [] plan
  refine ⟨attempts, ?_, by simpa using actions, Trace.nil.tryAll finished⟩
  simp only [run, no_checks mutating, tryAll, allMutating, finished]

theorem run_calls_of_mutating (abortOnUnavailable : Bool) (mutating : ∀ action ∈ plan, action.isMutating) :
    (run transport abortOnUnavailable plan).calls = plan.map (·.operation) := by
  obtain ⟨attempts, finished, rfl, _⟩ := run_of_mutating transport abortOnUnavailable mutating
  simp [finished, calls]

end RealmPlan.Execution

namespace RealmPlan.Pass

theorem rolePlan_mutating (pass : Pass) (declared observed : List Role) :
    ∀ action ∈ pass.rolePlan declared observed, action.isMutating := by
  intro action member
  obtain ⟨change, _, rfl⟩ := List.mem_map.mp member
  cases change <;> rfl

end RealmPlan.Pass
