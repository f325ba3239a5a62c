import RealmPlan.Proofs.Counting
import RealmPlan.Proofs.Report
import RealmPlan.Service

namespace RealmPlan

-- What a process is asked to do that its counters can tell of.
inductive Deed where
  | record (plan : Plan)
  | execute (settings : Settings) (transport : Transport) (plan : Plan)
  | register

namespace Deed

def perform (service : Service) : Deed → Service
  | record plan => service.recordPlan plan
  | execute settings transport plan => (service.execute settings transport plan).2
  | register => service.register

def plans : Deed → List Plan
  | record plan => [plan]
  | _ => []

-- The calls that are made, with what the transport answers to them.
def calls : Deed → List Attempt
  | execute settings transport plan =>
    Execution.answers transport (Execution.run transport settings.abortOnUnavailable plan).called
  | _ => []

def reports : Deed → List Report
  | execute settings transport plan => (Execution.run transport settings.abortOnUnavailable plan).report.toOption.toList
  | _ => []

end Deed

namespace Series

-- What a series comes to, told from what was done, and from no counter.
def total (history : List Deed) : Series → Nat
  | reconciliations => (history.flatMap Deed.plans).length
  | planned kind => (history.flatMap Deed.plans).flatten.countP (·.kind == kind)
  | executed kind => (history.flatMap Deed.calls).countP fun call => call.action.kind == kind && !call.failed
  | failed kind => ((history.flatMap Deed.reports).flatMap (·.failures)).countP (·.kind == kind)
  | pingFailures => (history.flatMap Deed.calls).countP fun call => call.action.kind == .ping && call.failed

theorem total_cons (deed : Deed) (history : List Deed) (series : Series) :
    series.total (deed :: history) = series.total [deed] + series.total history := by
  cases series <;> simp [total]

end Series

theorem Service.log_kept (service : Service) (events : List Log.Event) :
    (service.log events).counters = service.counters ∧ (service.log events).registry = service.registry := by
  unfold log
  split <;> exact ⟨rfl, rfl⟩

namespace Counters

variable (counters : Counters) (series : Series)

theorem value_recordPlan (plan : Plan) :
    (counters.recordPlan plan).value series = counters.value series + series.total [.record plan] := by
  cases series with
  | planned kind =>
    simp [value, recordPlan, Tally.count_addAll, Series.total, Deed.plans]
  | _ => simp [value, recordPlan, Series.total, Deed.plans, Deed.calls, Deed.reports]

theorem value_recordExecution (settings : Settings) (transport : Transport) (plan : Plan) :
    (counters.recordExecution (Execution.run transport settings.abortOnUnavailable plan)).value series =
      counters.value series + series.total [.execute settings transport plan] := by
  have ending := Execution.run_ending transport settings.abortOnUnavailable plan
  generalize ran : Execution.run transport settings.abortOnUnavailable plan = execution at ending
  cases ending with
  | finished =>
    have calls : Deed.calls (.execute settings transport plan) =
        Execution.answers transport (Execution.order plan) := by
      rw [Deed.calls, ran, Execution.answers_called_finished]
    have reports : Deed.reports (.execute settings transport plan) =
        [.ofAttempts (Execution.answers transport (Execution.order plan))] := by
      rw [Deed.reports, ran]
      rfl
    rw [recordExecution, value_recordAttempts]
    cases series <;> simp [Series.total, calls, reports, Deed.plans, Report.failures_countP, Series.counts]
  | @halted attempts check fault ping clean answered =>
    have calls : Deed.calls (.execute settings transport plan) = attempts ++ [⟨check, .error fault⟩] := by
      rw [Deed.calls, ran]
      exact answered
    have reports : Deed.reports (.execute settings transport plan) = [] := by
      rw [Deed.reports, ran]
      rfl
    have halts : (⟨check, .error fault⟩ : Attempt).failed = true := rfl
    -- The check that ends the execution is a failed call, and there is no report that would list it.
    have unfailed : ∀ kind, attempts.countP (Series.counts (.failed kind)) = 0 := by
      intro kind
      rw [List.countP_eq_zero]
      intro attempt member
      simp [Series.counts, clean attempt member]
    have counted := value_recordAttempts counters series attempts
    rw [recordExecution]
    cases series with
    | failed kind =>
      rw [unfailed, Nat.add_zero] at counted
      simpa [Series.total, reports, value, countPingFailure] using counted
    | reconciliations => simpa [Series.total, Deed.plans, value, countPingFailure, Series.counts] using counted
    | planned kind => simpa [Series.total, Deed.plans, value, countPingFailure, Series.counts] using counted
    | executed kind => simpa [Series.total, calls, value, countPingFailure, Series.counts, halts] using counted
    | pingFailures =>
      simpa [Series.total, calls, value, countPingFailure, Series.counts, halts, ping, ← Nat.add_assoc] using counted

end Counters

namespace Deed

variable (service : Service) (series : Series)

theorem value_perform (deed : Deed) :
    (deed.perform service).counters.value series = service.counters.value series + series.total [deed] := by
  cases deed with
  | record plan => exact Counters.value_recordPlan service.counters series plan
  | execute settings transport plan =>
    rw [← Counters.value_recordExecution]
    exact congrArg (fun counters => Counters.value (Counters.recordExecution counters _) series) (Service.log_kept _ _).1
  | register =>
    cases series <;> simp [perform, Service.register, Service.registration, Series.total, plans, calls, reports]

-- A run adds up what its steps add.
theorem value_performAll (history : List Deed) :
    (history.foldl perform service).counters.value series = service.counters.value series + series.total history := by
  induction history generalizing service with
  | nil => cases series <;> rfl
  | cons deed rest ih => rw [List.foldl_cons, ih, value_perform, series.total_cons deed rest, Nat.add_assoc]

end Deed

structure Service.Kept (service : Service) : Prop where
  counted : service.counters.Counted
  settled : service.registry.Settled

namespace Deed

variable {service : Service}

theorem perform_registry (settled : service.registry.Settled) (deed : Deed) :
    (deed.perform service).registry = .complete ∨
      deed ≠ .register ∧ (deed.perform service).registry = service.registry := by
  cases deed with
  | record plan => exact .inr ⟨nofun, rfl⟩
  | execute settings transport plan => exact .inr ⟨nofun, (Service.log_kept service _).2⟩
  | register =>
    refine .inl ?_
    simp only [perform, Service.register, Service.registration, settled.register]

theorem perform_kept (kept : service.Kept) (deed : Deed) : (deed.perform service).Kept := by
  refine ⟨?_, ?_⟩
  · cases deed with
    | record plan => exact kept.counted.recordPlan plan
    | execute settings transport plan =>
      refine Counters.Counted.recordExecution ?_ _
      rw [(Service.log_kept _ _).1]
      exact kept.counted
    | register => exact kept.counted
  · rcases perform_registry kept.settled deed with complete | ⟨_, same⟩
    · exact .inr complete
    · rw [same]
      exact kept.settled

theorem performAll_kept (kept : service.Kept) (history : List Deed) :
    (history.foldl perform service).Kept := by
  induction history generalizing service with
  | nil => exact kept
  | cons deed rest ih => exact ih (perform_kept kept deed)

-- One registration anywhere is enough.
theorem performAll_registry (kept : service.Kept) {history : List Deed}
    (registered : service.registry = .complete ∨ register ∈ history) :
    (history.foldl perform service).registry = .complete := by
  induction history generalizing service with
  | nil => exact registered.resolve_right List.not_mem_nil
  | cons deed rest ih =>
    refine ih (perform_kept kept deed) ?_
    rcases perform_registry kept.settled deed with complete | ⟨other, same⟩
    · exact .inl complete
    · rw [same]
      exact registered.imp_right fun member => (List.mem_cons.mp member).resolve_left (Ne.symm other)

end Deed

namespace Service

-- What a fresh process has become when the history is over, with whoever listens to its log.
def after (subscriber : Option Log.Subscriber) (history : List Deed) : Service :=
  history.foldl Deed.perform { subscriber }

variable (subscriber : Option Log.Subscriber) (history : List Deed)

theorem fresh_kept : Kept { subscriber } := ⟨Counters.Counted.fresh, .inl rfl⟩

theorem after_value (series : Series) : (after subscriber history).counters.value series = series.total history := by
  rw [after, Deed.value_performAll, Counters.value_fresh, Nat.zero_add]

-- An execution that ends with a report accounts for every action of its plan, by kind.
theorem execute_raises (service : Service) {settings : Settings} {transport : Transport} {plan : Plan} {report : Report}
    (reported : (service.execute settings transport plan).1.report = .ok report) (kind : Operation.Kind) :
    (service.execute settings transport plan).2.counters.value (.executed kind) +
      (service.execute settings transport plan).2.counters.value (.failed kind) =
    service.counters.value (.executed kind) + service.counters.value (.failed kind) +
      plan.countP (·.kind == kind) := by
  obtain ⟨ran, _⟩ := (Execution.run_ending transport settings.abortOnUnavailable plan).of_report reported
  have raised : ∀ series, (service.execute settings transport plan).2.counters.value series =
      service.counters.value series +
        (Execution.answers transport (Execution.order plan)).countP series.counts := by
    intro series
    rw [← Counters.value_recordAttempts, execute, ran, Counters.recordExecution, (log_kept service _).1]
  have called : (Execution.answers transport (Execution.order plan)).countP (·.action.kind == kind) =
      plan.countP (·.kind == kind) := by
    rw [← (Execution.order_perm plan).countP_eq, ← Execution.answers_actions transport (Execution.order plan),
      List.countP_map, Execution.answers_actions]
    rfl
  rw [raised, raised, ← called, ← Series.executed_add_failed]
  omega

-- The counters of a process tell what it has done, whatever that was and in whatever order.
theorem counters_tell_history (subscriber : Option Log.Subscriber) (history : List Deed) :
    let service := after subscriber history
    (∀ series, service.counters.value series = series.total history) ∧
    (∀ settings transport plan report, (service.execute settings transport plan).1.report = .ok report → ∀ kind,
      (service.execute settings transport plan).2.counters.value (.executed kind) +
        (service.execute settings transport plan).2.counters.value (.failed kind) =
      service.counters.value (.executed kind) + service.counters.value (.failed kind) +
        plan.countP (·.kind == kind)) ∧
    service.registration.1 = .ok () ∧
    (.register ∈ history → ∀ series : Series,
      Counters.scrape service.exposition series.family series.labels = series.shown (series.total history)) := by
  intro service
  have kept : service.Kept := Deed.performAll_kept (fresh_kept subscriber) history
  refine ⟨after_value subscriber history, fun _ _ _ _ reported => execute_raises service reported, ?_, ?_⟩
  · rw [registration, kept.settled.register]
  · intro registered series
    have complete : service.registry = .complete :=
      Deed.performAll_registry (fresh_kept subscriber) (.inr registered)
    rw [exposition, complete, Registry.shown_complete, kept.counted.scrape_exposition]
    exact congrArg series.shown (after_value subscriber history series)

-- Both executions have the same check answered and the next one not. The first ends there, and the second goes on.
-- Everything but one plan is counted before the counters are registered.
theorem counters_tell_history_two_executions :
    let plan := [Pass.ping, Pass.ping, (Pass.of {} default).createRole (Role.named "reader")]
    let transport : Transport := fun earlier _ => if earlier.length = 0 then .ok () else .error ⟨["gone"]⟩
    let lenient : Settings := ⟨"INFO", .text, false, true, false, 500⟩
    let history : List Deed :=
      [.execute {} transport plan, .execute lenient transport plan, .register, .record plan, .register]
    let service := after none history
    service.counters.value (.executed .ping) = 2 ∧ service.counters.value (.failed .ping) = 1 ∧
      service.counters.value .pingFailures = 2 ∧
      (service.execute lenient transport plan).2.counters.value (.executed .ping) +
        (service.execute lenient transport plan).2.counters.value (.failed .ping) = 5 ∧
      service.registration.1 = .ok () ∧
      Counters.scrape service.exposition "keycloak_client_ping_failures_total" "" = some "2" ∧
      Counters.scrape service.exposition "keycloak_client_actions_planned_total" "\x7bkind=\"ping\"\x7d" = some "2" ∧
      Counters.scrape service.exposition "keycloak_client_actions_executed_total"
        "\x7bkind=\"create-client-role\"\x7d" = none := by
  intro plan transport lenient history service
  obtain ⟨told, raised, answered, shown⟩ := counters_tell_history none history
  have executed : service.counters.value (.executed .ping) = 2 := (told _).trans (by decide +kernel)
  have failed : service.counters.value (.failed .ping) = 1 := (told _).trans (by decide +kernel)
  have more := raised lenient transport plan _ rfl .ping
  rw [executed, failed] at more
  have registered : Deed.register ∈ history := .tail _ (.tail _ (.head _))
  exact ⟨executed, failed, (told _).trans (by decide +kernel), more, answered,
    (shown registered .pingFailures).trans (by decide +kernel),
    (shown registered (.planned .ping)).trans (by decide +kernel),
    (shown registered (.executed .createRole)).trans (by decide +kernel)⟩

end Service
end RealmPlan
