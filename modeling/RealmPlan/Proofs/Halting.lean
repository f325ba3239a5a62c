import RealmPlan.Proofs.Attempts

namespace RealmPlan.Execution

-- A check that would fail in its place, behind the calls of all checks before it. Whether it is
-- called there is not said, since a check before it may have ended the execution.
def FailsAt (transport : Transport) (checks : Plan) (place : Nat) (fault : Fault) : Prop :=
  ∃ check, checks[place]? = some check ∧
    transport ((checks.take place).map (·.operation)) check.operation = .error fault

structure FirstFault (transport : Transport) (checks : Plan) (place : Nat) (fault : Fault) : Prop where
  fails : FailsAt transport checks place fault
  before : ∀ earlier < place, ∀ other, ¬ FailsAt transport checks earlier other

variable {transport : Transport} {checks rest : Plan}

theorem failsAt_split (transport : Transport) (before : Plan) (check : Action) (after : Plan) (fault : Fault) :
    FailsAt transport (before ++ check :: after) before.length fault ↔
      transport (before.map (·.operation)) check.operation = .error fault := by
  simp [FailsAt]

theorem FailsAt.within {place : Nat} {fault : Fault} (fails : FailsAt transport checks place fault) :
    place < checks.length := by
  obtain ⟨check, atPlace, _⟩ := fails
  exact (List.getElem?_eq_some_iff.mp atPlace).1

theorem FirstFault.unique {place other : Nat} {fault second : Fault} (left : FirstFault transport checks place fault)
    (right : FirstFault transport checks other second) : place = other ∧ fault = second := by
  have same : place = other := by
    apply Nat.le_antisymm
    · exact Nat.le_of_not_lt fun earlier => left.before other earlier second right.fails
    · exact Nat.le_of_not_lt fun earlier => right.before place earlier fault left.fails
  subst same
  obtain ⟨check, atPlace, answer⟩ := left.fails
  obtain ⟨_, again, sameAnswer⟩ := right.fails
  cases Option.some.inj (atPlace.symm.trans again)
  exact ⟨rfl, Except.error.inj (answer.symm.trans sameAnswer)⟩

-- The checks are called one after the other until the first one fails, if one does.
theorem tryAll_outcome (transport : Transport) (done : List Attempt) (actions : done.map (·.action) ++ rest = checks)
    (sofar : ∀ place < done.length, ∀ fault, ¬ FailsAt transport checks place fault) :
    (∃ attempts, tryAll transport true done rest = .finished attempts ∧ attempts.map (·.action) = checks ∧
        ∀ place fault, ¬ FailsAt transport checks place fault) ∨
      ∃ attempts check fault, tryAll transport true done rest = .halted attempts check fault ∧
        attempts.map (·.action) ++ [check] = checks.take (attempts.length + 1) ∧
        FirstFault transport checks attempts.length fault := by
  induction rest generalizing done with
  | nil =>
    rw [List.append_nil] at actions
    refine .inl ⟨done, rfl, actions, fun place fault fails => ?_⟩
    have within := fails.within
    rw [← actions, List.length_map] at within
    exact sofar place within fault fails
  | cons action rest ih =>
    have here : ∀ fault, FailsAt transport checks done.length fault ↔
        transport (done.map (·.action.operation)) action.operation = .error fault := by
      intro fault
      have split := failsAt_split transport (done.map (·.action)) action rest fault
      rwa [actions, List.length_map, List.map_map] at split
    cases answer : transport (done.map (·.action.operation)) action.operation with
    | error fault =>
      refine .inr ⟨done, action, fault, by simp [tryAll, answer], ?_, (here fault).mpr answer, sofar⟩
      have length : (done.map (·.action) ++ [action]).length = done.length + 1 := by simp
      rw [← actions, List.append_cons _ action rest]
      exact (List.take_left' length).symm
    | ok _ =>
      have step : tryAll transport true done (action :: rest) =
          tryAll transport true (done ++ [⟨action, .ok ()⟩]) rest := by
        simp [tryAll, answer]
      rw [step]
      refine ih (done ++ [⟨action, .ok ()⟩]) (by simpa using actions) fun place within fault fails => ?_
      rw [List.length_append, List.length_singleton] at within
      rcases Nat.lt_succ_iff_lt_or_eq.mp within with earlier | rfl
      · exact sofar place earlier fault fails
      · rw [here, answer] at fails
        cases fails

theorem not_mutating_of_ofKind {plan : Plan} {action : Action} (member : action ∈ Plan.ofKind plan .ping) :
    action.isMutating = false := by
  have kind := eq_of_beq (List.mem_filter.mp member).2
  rw [Action.kind] at kind
  rw [Action.isMutating, Operation.isMutating, kind]
  rfl

-- What is no check changes something, so that no action is left out and none is met twice.
theorem checks_and_changes_perm (plan : Plan) :
    (Plan.ofKind plan .ping ++ plan.filter Action.isMutating).Perm plan := by
  have others : plan.filter Action.isMutating = plan.filter fun action => !(action.kind == .ping) := by
    apply List.filter_congr
    intro action _
    rw [Action.isMutating, Operation.isMutating, ← Action.kind]
    cases action.kind <;> rfl
  rw [others]
  exact List.filter_append_perm (fun action : Action => action.kind == .ping) plan

-- The first check that fails ends an execution that is to stop at it, and nothing but checks has been
-- called. In all other cases every action is called exactly once, the checks before all others.
theorem run_calls_exact (transport : Transport) (abortOnUnavailable : Bool) (plan : Plan) :
    (abortOnUnavailable = true → (∃ place fault, FailsAt transport (Plan.ofKind plan .ping) place fault) →
      ∃ place fault, FirstFault transport (Plan.ofKind plan .ping) place fault ∧
        (run transport abortOnUnavailable plan).report = .error (.unavailable fault.text) ∧
        (run transport abortOnUnavailable plan).calls =
          ((Plan.ofKind plan .ping).take (place + 1)).map (·.operation) ∧
        ∀ call ∈ (run transport abortOnUnavailable plan).calls, call.isMutating = false) ∧
    ((abortOnUnavailable = true → ∀ place fault, ¬ FailsAt transport (Plan.ofKind plan .ping) place fault) →
      ∃ attempts, run transport abortOnUnavailable plan = .finished attempts ∧ Trace transport attempts ∧
        (run transport abortOnUnavailable plan).report = .ok (.ofAttempts attempts) ∧
        attempts.map (·.action) = Plan.ofKind plan .ping ++ plan.filter Action.isMutating ∧
        (run transport abortOnUnavailable plan).calls =
          (Plan.ofKind plan .ping ++ plan.filter Action.isMutating).map (·.operation) ∧
        (Plan.ofKind plan .ping ++ plan.filter Action.isMutating).Perm plan) := by
  constructor
  · intro abort fails
    subst abort
    rcases tryAll_outcome transport [] (List.nil_append (Plan.ofKind plan .ping)) (by simp) with
      ⟨_, _, _, noFault⟩ | ⟨attempts, check, fault, halted, called, first⟩
    · obtain ⟨place, fault, fails⟩ := fails
      exact absurd fails (noFault place fault)
    · have calls : (run transport true plan).calls =
          ((Plan.ofKind plan .ping).take (attempts.length + 1)).map (·.operation) := by
        simp [run, halted, Execution.calls, ← called]
      refine ⟨attempts.length, fault, first, by simp [run, halted, report], calls, fun call member => ?_⟩
      rw [calls] at member
      obtain ⟨action, taken, rfl⟩ := List.mem_map.mp member
      exact not_mutating_of_ofKind (List.mem_of_mem_take taken)
  · intro noFault
    have checked : ∃ checks, tryAll transport abortOnUnavailable [] (Plan.ofKind plan .ping) = .finished checks ∧
        checks.map (·.action) = Plan.ofKind plan .ping := by
      cases abortOnUnavailable with
      | false => simpa using tryAll_finishes transport [] (Plan.ofKind plan .ping)
      | true =>
        rcases tryAll_outcome transport [] (List.nil_append (Plan.ofKind plan .ping)) (by simp) with
          ⟨checks, finished, actions, _⟩ | ⟨_, _, fault, _, _, first⟩
        · exact ⟨checks, finished, actions⟩
        · exact absurd first.fails (noFault rfl _ fault)
    obtain ⟨checks, checksFinished, checkActions⟩ := checked
    obtain ⟨attempts, finished, actions⟩ := tryAll_finishes transport checks (plan.filter Action.isMutating)
    have ran : run transport abortOnUnavailable plan = .finished attempts := by
      simp only [run, checksFinished, finished]
    rw [checkActions] at actions
    refine ⟨attempts, ran, (Trace.nil.tryAll checksFinished).tryAll finished, by rw [ran]; rfl, actions, ?_,
      checks_and_changes_perm plan⟩
    rw [ran, ← actions, List.map_map]
    rfl

-- The second of three checks fails, with changes planned before and behind it.
theorem run_calls_exact_second_check_fails :
    let role := Role.named "reader"
    let pass := Pass.of {} default
    let plan := [pass.createRole role, Pass.ping, Pass.ping, pass.deleteRole role, Pass.ping]
    let transport : Transport := fun earlier _ => if earlier.length = 1 then .error ⟨["gone"]⟩ else .ok ()
    (run transport true plan).report = .error (.unavailable "gone") ∧
      (run transport true plan).calls = [.ping, .ping] ∧
      ∃ attempts, run transport false plan = .finished attempts ∧
        attempts.map (·.action) = [Pass.ping, Pass.ping, Pass.ping, pass.createRole role, pass.deleteRole role] := by
  intro role pass plan transport
  have first : FirstFault transport (Plan.ofKind plan .ping) 1 ⟨["gone"]⟩ := by
    refine ⟨⟨Pass.ping, rfl, rfl⟩, fun earlier before other fails => ?_⟩
    obtain ⟨check, atPlace, answer⟩ := fails
    obtain rfl := Nat.lt_one_iff.mp before
    cases answer
  obtain ⟨place, fault, found, stopped, calls, _⟩ :=
    (run_calls_exact transport true plan).1 rfl ⟨1, _, first.fails⟩
  obtain ⟨rfl, rfl⟩ := first.unique found
  obtain ⟨attempts, finished, _, _, actions, _⟩ := (run_calls_exact transport false plan).2 (by simp)
  exact ⟨stopped, calls, attempts, finished, actions⟩

end RealmPlan.Execution
