import RealmPlan.Proofs.Scrape

namespace RealmPlan

namespace Operation.Kind

theorem ofLabel?_label (kind : Kind) : ofLabel? kind.label = some kind := by
  cases kind <;> rfl

theorem label_inj {first second : Kind} : first.label = second.label ↔ first = second := by
  refine ⟨fun same => ?_, congrArg label⟩
  have read := congrArg ofLabel? same
  rwa [ofLabel?_label, ofLabel?_label, Option.some.injEq] at read

-- No kind has a label that has to be escaped.
theorem kindLabel_label (kind : Kind) : Counters.kindLabel kind.label = "\x7bkind=\"" ++ kind.label ++ "\"\x7d" := by
  cases kind <;> rfl

end Operation.Kind

namespace Tally

theorem count_add (tally : Tally) (kind other : Operation.Kind) :
    (tally.add kind.label).count other.label = tally.count other.label + if kind == other then 1 else 0 := by
  rw [count, add, Dict.get?_insert]
  by_cases same : kind = other
  · simp [same]
  · simp [same, Operation.Kind.label_inj, Ne.symm same, count]

theorem count_addAll (tally : Tally) (plan : Plan) (kind : Operation.Kind) :
    (plan.foldl (fun tally action => tally.add action.kind.label) tally).count kind.label =
      tally.count kind.label + plan.countP (·.kind == kind) := by
  induction plan generalizing tally with
  | nil => rfl
  | cons action rest ih =>
    rw [List.foldl_cons, ih, count_add, List.countP_cons, Nat.add_right_comm, Nat.add_assoc]

-- A label that is there was counted.
def Counted (tally : Tally) : Prop := ∀ label, Dict.get? tally label ≠ some 0

namespace Counted

variable {tally : Tally}

theorem add (counted : tally.Counted) (label : String) : (tally.add label).Counted := by
  intro other
  rw [Tally.add, Dict.get?_insert]
  split
  · simp
  · exact counted other

theorem addAll (counted : tally.Counted) (plan : Plan) :
    (plan.foldl (fun tally action => tally.add action.kind.label) tally).Counted := by
  induction plan generalizing tally with
  | nil => exact counted
  | cons action rest ih => exact ih (counted.add _)

theorem get?_eq (counted : tally.Counted) (label : String) :
    Dict.get? tally label = if tally.count label = 0 then none else some (tally.count label) := by
  have here := counted label
  unfold count
  cases found : Dict.get? tally label with
  | none => rfl
  | some count =>
    rw [found] at here
    have present : count ≠ 0 := fun zero => here (congrArg some zero)
    simp [present]

theorem lookup_kind (counted : tally.Counted) (kind : Operation.Kind) :
    ((Counters.byKind tally).lookup ("\x7bkind=\"" ++ kind.label ++ "\"\x7d")).map toString =
      if tally.count kind.label = 0 then none else some (toString (tally.count kind.label)) := by
  rw [← Operation.Kind.kindLabel_label, Counters.lookup_byKind, counted.get?_eq]
  split <;> rfl

end Counted
end Tally

inductive Series where
  | reconciliations
  | planned (kind : Operation.Kind)
  | executed (kind : Operation.Kind)
  | failed (kind : Operation.Kind)
  | pingFailures

namespace Series

-- The calls by which a series grows.
def counts : Series → Attempt → Bool
  | executed kind => fun call => call.action.kind == kind && !call.failed
  | failed kind => fun call => call.action.kind == kind && call.failed
  | pingFailures => fun call => call.action.kind == .ping && call.failed
  | _ => fun _ => false

theorem executed_add_failed (calls : List Attempt) (kind : Operation.Kind) :
    calls.countP (executed kind).counts + calls.countP (failed kind).counts =
      calls.countP (·.action.kind == kind) := by
  rw [List.countP_eq_countP_filter_add calls (·.action.kind == kind) Attempt.failed, List.countP_filter,
    List.countP_filter, Nat.add_comm]
  rfl

-- Under which name a scraper finds a series, and with which labels.
def family : Series → String
  | reconciliations => "keycloak_client_reconciliations_total"
  | planned _ => "keycloak_client_actions_planned_total"
  | executed _ => "keycloak_client_actions_executed_total"
  | failed _ => "keycloak_client_action_failures_total"
  | pingFailures => "keycloak_client_ping_failures_total"

def labels : Series → String
  | reconciliations | pingFailures => ""
  | planned kind | executed kind | failed kind => "\x7bkind=\"" ++ kind.label ++ "\"\x7d"

-- What is read of a series that has come to a number. Kinds stay out of sight until they are counted.
def shown : Series → Nat → Option String
  | reconciliations, count | pingFailures, count => some (toString count)
  | _, count => if count = 0 then none else some (toString count)

end Series

namespace Counters

def value (counters : Counters) : Series → Nat
  | .reconciliations => counters.reconciliations
  | .planned kind => counters.planned.count kind.label
  | .executed kind => counters.executed.count kind.label
  | .failed kind => counters.failed.count kind.label
  | .pingFailures => counters.pingFailures

theorem value_fresh (series : Series) : ({} : Counters).value series = 0 := by
  cases series <;> rfl

theorem value_recordAttempt (counters : Counters) (series : Series) (call : Attempt) :
    (counters.recordAttempt call).value series = counters.value series + if series.counts call then 1 else 0 := by
  cases failed : call.failed with
  | false => cases series <;> simp [value, recordAttempt, countExecuted, Series.counts, failed, Tally.count_add]
  | true =>
    by_cases check : call.action.kind = .ping
    · cases series <;>
        simp [value, recordAttempt, countFailed, countPingFailure, Series.counts, failed, check, Tally.count_add]
    · cases series <;> simp [value, recordAttempt, countFailed, Series.counts, failed, check, Tally.count_add]

theorem value_recordAttempts (counters : Counters) (series : Series) (calls : List Attempt) :
    (calls.foldl recordAttempt counters).value series = counters.value series + calls.countP series.counts := by
  induction calls generalizing counters with
  | nil => rfl
  | cons call rest ih =>
    rw [List.foldl_cons, ih, value_recordAttempt, List.countP_cons, Nat.add_right_comm, Nat.add_assoc]

structure Counted (counters : Counters) : Prop where
  planned : counters.planned.Counted
  executed : counters.executed.Counted
  failed : counters.failed.Counted

namespace Counted

variable {counters : Counters}

theorem fresh : ({} : Counters).Counted := ⟨fun _ => nofun, fun _ => nofun, fun _ => nofun⟩

theorem recordPlan (counted : counters.Counted) (plan : Plan) : (counters.recordPlan plan).Counted :=
  ⟨counted.planned.addAll plan, counted.executed, counted.failed⟩

theorem recordAttempt (counted : counters.Counted) (call : Attempt) : (counters.recordAttempt call).Counted := by
  unfold Counters.recordAttempt
  dsimp only
  split
  · split
    · exact ⟨counted.planned, counted.executed, counted.failed.add _⟩
    · exact ⟨counted.planned, counted.executed, counted.failed.add _⟩
  · exact ⟨counted.planned, counted.executed.add _, counted.failed⟩

theorem recordAttempts (counted : counters.Counted) (calls : List Attempt) :
    (calls.foldl Counters.recordAttempt counters).Counted := by
  induction calls generalizing counters with
  | nil => exact counted
  | cons call rest ih => exact ih (counted.recordAttempt call)

theorem recordExecution (counted : counters.Counted) (execution : Execution) :
    (counters.recordExecution execution).Counted := by
  cases execution with
  | finished attempts => exact counted.recordAttempts attempts
  | halted attempts _ _ =>
    obtain ⟨planned, executed, failed⟩ := counted.recordAttempts attempts
    exact ⟨planned, executed, failed⟩

end Counted

theorem familyNames_nodup : familyNames.Nodup := by decide +kernel

-- Every series is found in the exposition with the number that is kept of it.
theorem Counted.scrape_exposition {counters : Counters} (counted : counters.Counted) (series : Series) :
    scrape (exposition counters.families) series.family series.labels = series.shown (counters.value series) := by
  have distinct : (counters.families.map (·.name)).Nodup := familyNames_nodup
  obtain ⟨family, member, name, samples⟩ : ∃ family ∈ counters.families, family.name = series.family ∧
      (family.samples.lookup series.labels).map toString = series.shown (counters.value series) := by
    cases series with
    | failed kind => exact ⟨_, .head _, rfl, counted.failed.lookup_kind kind⟩
    | executed kind => exact ⟨_, .tail _ (.head _), rfl, counted.executed.lookup_kind kind⟩
    | planned kind => exact ⟨_, .tail _ (.tail _ (.head _)), rfl, counted.planned.lookup_kind kind⟩
    | pingFailures => exact ⟨_, .tail _ (.tail _ (.tail _ (.head _))), rfl, rfl⟩
    | reconciliations => exact ⟨_, .tail _ (.tail _ (.tail _ (.tail _ (.head _)))), rfl, rfl⟩
  rw [← name, scrape_family (families_plain counters) distinct member, samples]

end Counters

namespace Registry

-- All families are there, and they were registered without a fault.
def complete : Registry := ⟨Counters.familyNames, some (.ok ())⟩

-- Either nothing was registered so far or everything was.
def Settled (registry : Registry) : Prop := registry = {} ∨ registry = complete

theorem add_of_nodup {registered names : List String} (distinct : (registered ++ names).Nodup) :
    add registered names = (.ok (), registered ++ names) := by
  induction names generalizing registered with
  | nil => simp [add]
  | cons name rest ih =>
    have fresh : name ∉ registered := by
      intro taken
      exact (List.nodup_append.mp distinct).2.2 name taken name List.mem_cons_self rfl
    have shift : registered ++ name :: rest = (registered ++ [name]) ++ rest := by simp
    rw [shift] at distinct ⊢
    rw [add, if_neg fresh, ih distinct]

theorem Settled.register {registry : Registry} (settled : registry.Settled) :
    registry.register Counters.familyNames = (.ok (), complete) := by
  rcases settled with rfl | rfl
  · have added : add [] Counters.familyNames = (.ok (), Counters.familyNames) :=
      add_of_nodup Counters.familyNames_nodup
    simp only [Registry.register, added]
    rfl
  · rfl

theorem shown_complete (counters : Counters) : complete.shown counters = counters.families := by
  have names : counters.families.map (·.name) = complete.names := rfl
  rw [shown, List.filter_eq_self]
  intro family member
  rw [← names]
  exact decide_eq_true (List.mem_map_of_mem member)

end Registry
end RealmPlan
