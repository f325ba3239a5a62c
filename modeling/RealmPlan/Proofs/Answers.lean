import RealmPlan.Proofs.Halting

namespace RealmPlan.Execution

-- The actions of a plan in the order in which they are called: the checks, and then all that changes something.
def order (plan : Plan) : Plan := Plan.ofKind plan .ping ++ plan.filter Action.isMutating

-- What the transport answers to actions in their order, each of them called behind all before it. Nothing of
-- an execution is read here, so that its records can be held against this.
def answers (transport : Transport) (actions : Plan) : List Attempt :=
  actions.zipIdx.map fun (action, place) =>
    ⟨action, transport ((actions.take place).map (·.operation)) action.operation⟩

-- All actions for which a call was made.
def called : Execution → Plan
  | finished attempts => attempts.map (·.action)
  | halted attempts check _ => attempts.map (·.action) ++ [check]

variable {transport : Transport} {plan : Plan} {done attempts : List Attempt} {check : Action} {fault : Fault}

theorem order_perm (plan : Plan) : (order plan).Perm plan := checks_and_changes_perm plan

theorem answers_snoc (transport : Transport) (actions : Plan) (action : Action) :
    answers transport (actions ++ [action]) =
      answers transport actions ++ [⟨action, transport (actions.map (·.operation)) action.operation⟩] := by
  rw [answers, List.zipIdx_append, List.map_append]
  congr 1
  · apply List.map_congr_left
    intro entry member
    obtain ⟨called, place⟩ := entry
    have within : place ≤ actions.length := Nat.le_of_lt (List.snd_lt_of_mem_zipIdx member)
    simp only [List.take_append_of_le_length within]
  · simp

theorem answers_actions (transport : Transport) (actions : Plan) :
    (answers transport actions).map (·.action) = actions := by
  simp [answers, Function.comp_def]

theorem answers_length (transport : Transport) (actions : Plan) :
    (answers transport actions).length = actions.length := by
  simp [answers]

theorem Trace.eq_answers (traced : Trace transport attempts) :
    attempts = answers transport (attempts.map (·.action)) := by
  induction traced with
  | nil => rfl
  | snoc traced ih =>
    rw [List.map_append, List.map_singleton, answers_snoc, ← ih, List.map_map]
    rfl

theorem tryAll_actions {stopsAtFault : Bool}
    (finished : tryAll transport stopsAtFault done plan = .finished attempts) :
    attempts.map (·.action) = done.map (·.action) ++ plan := by
  induction plan generalizing done with
  | nil =>
    cases finished
    simp
  | cons action rest ih =>
    unfold tryAll at finished
    dsimp only at finished
    split at finished
    · cases finished
    · simpa using ih finished

-- Up to the check that ends an execution nothing has failed.
theorem Trace.halted (traced : Trace transport done) (clean : ∀ attempt ∈ done, attempt.failed = false)
    (halts : Execution.tryAll transport true done plan = .halted attempts check fault) :
    Trace transport attempts ∧ (∀ attempt ∈ attempts, attempt.failed = false) ∧ check ∈ plan ∧
      transport (attempts.map (·.action.operation)) check.operation = .error fault := by
  induction plan generalizing done with
  | nil => cases halts
  | cons action rest ih =>
    cases answer : transport (done.map (·.action.operation)) action.operation with
    | error first =>
      simp only [Execution.tryAll, answer] at halts
      cases halts
      exact ⟨traced, clean, List.mem_cons_self, answer⟩
    | ok _ =>
      have next : Trace transport (done ++ [⟨action, .ok ()⟩]) := by
        rw [← answer]
        exact traced.snoc
      simp only [Execution.tryAll, answer] at halts
      have nextClean : ∀ attempt ∈ done ++ [⟨action, .ok ()⟩], attempt.failed = false := by
        intro attempt member
        rcases List.mem_append.mp member with old | new
        · exact clean attempt old
        · rw [List.mem_singleton.mp new]
          rfl
      obtain ⟨traced, clean, member, failed⟩ := ih next nextClean halts
      exact ⟨traced, clean, List.mem_cons_of_mem _ member, failed⟩

-- How an execution of a plan may end. What it has noted is what was answered, in the order of the calls.
inductive Ending (transport : Transport) (plan : Plan) : Execution → Prop where
  | finished : Ending transport plan (.finished (answers transport (order plan)))
  | halted {attempts : List Attempt} {check : Action} {fault : Fault} :
      check.kind = .ping → (∀ attempt ∈ attempts, attempt.failed = false) →
      answers transport (attempts.map (·.action) ++ [check]) = attempts ++ [⟨check, .error fault⟩] →
      Ending transport plan (.halted attempts check fault)

theorem run_ending (transport : Transport) (abortOnUnavailable : Bool) (plan : Plan) :
    Ending transport plan (run transport abortOnUnavailable plan) := by
  cases checking : tryAll transport abortOnUnavailable [] (Plan.ofKind plan .ping) with
  | finished checks =>
    have checksTraced : Trace transport checks := Trace.nil.tryAll checking
    have checkActions : checks.map (·.action) = Plan.ofKind plan .ping := tryAll_actions checking
    obtain ⟨attempts, finished, actions⟩ := tryAll_finishes transport checks (plan.filter Action.isMutating)
    have answered := (checksTraced.tryAll finished).eq_answers
    rw [actions, checkActions] at answered
    have ran : run transport abortOnUnavailable plan = .finished (answers transport (order plan)) := by
      simp only [run, checking, finished, answered]
      rfl
    rw [ran]
    exact .finished
  | halted attempts check fault =>
    have aborts : abortOnUnavailable = true := by
      cases abortOnUnavailable with
      | true => rfl
      | false =>
        obtain ⟨_, finished, _⟩ := tryAll_finishes transport [] (Plan.ofKind plan .ping)
        rw [checking] at finished
        cases finished
    subst aborts
    obtain ⟨traced, clean, member, failed⟩ := Trace.nil.halted (by simp) checking
    have ran : run transport true plan = .halted attempts check fault := by
      simp only [run, checking]
    rw [ran]
    refine .halted (eq_of_beq (List.mem_filter.mp member).2) clean ?_
    rw [answers_snoc, ← traced.eq_answers, List.map_map]
    exact congrArg (fun outcome => attempts ++ [⟨check, outcome⟩]) failed

-- A report is handed out for a whole plan only.
theorem Ending.of_report {execution : Execution} {report : Report} (ending : Ending transport plan execution)
    (reported : execution.report = .ok report) :
    execution = .finished (answers transport (order plan)) ∧ report = .ofAttempts (answers transport (order plan)) := by
  cases ending with
  | finished => exact ⟨rfl, (Except.ok.inj reported).symm⟩
  | halted => cases reported

theorem answers_called_finished :
    answers transport (called (.finished (answers transport (order plan)))) = answers transport (order plan) := by
  rw [called, answers_actions]

end RealmPlan.Execution
