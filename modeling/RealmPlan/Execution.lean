import RealmPlan.Plan
import RealmPlan.Refusal

namespace RealmPlan

-- Why a call failed, the outermost cause first.
structure Fault where
  causes : List String
deriving DecidableEq

def Fault.text (fault : Fault) : String := ": ".intercalate fault.causes

-- Whoever carries out the calls. An answer may depend on the calls before it, so that nothing is
-- assumed of a realm but that it answers.
abbrev Transport := (earlier : List Operation) → Operation → Except Fault Unit

-- A call that was made for an action.
structure Attempt where
  action : Action
  outcome : Except Fault Unit

def Attempt.failed (attempt : Attempt) : Bool := !attempt.outcome.isOk

inductive Execution where
  | finished (attempts : List Attempt)
  -- The check failed behind these attempts, and nothing was called after it.
  | halted (attempts : List Attempt) (check : Action) (fault : Fault)

namespace Execution

def calls : Execution → List Operation
  | finished attempts => attempts.map (·.action.operation)
  | halted attempts check _ => attempts.map (·.action.operation) ++ [check.operation]

-- Actions one after the other, each behind all calls before it.
def tryAll (transport : Transport) (stopsAtFault : Bool) (done : List Attempt) : Plan → Execution
  | [] => .finished done
  | action :: rest =>
    let outcome := transport (done.map (·.action.operation)) action.operation
    match outcome, stopsAtFault with
    | .error fault, true => .halted done action fault
    | outcome, _ => tryAll transport stopsAtFault (done ++ [⟨action, outcome⟩]) rest

-- All checks come first. An action that fails does not keep the others from being tried.
def run (transport : Transport) (abortOnUnavailable : Bool) (plan : Plan) : Execution :=
  match tryAll transport abortOnUnavailable [] (Plan.ofKind plan .ping) with
  | .finished checks => tryAll transport false checks (plan.filter Action.isMutating)
  | halt => halt

end Execution

structure Failure where
  kind : Operation.Kind
  message : String
  error : String
deriving DecidableEq

-- What an execution did, for its resource.
structure Report where
  succeeded : Nat
  failures : List Failure
deriving DecidableEq

namespace Report

def failure? (attempt : Attempt) : Option Failure :=
  match attempt.outcome with
  | .ok _ => none
  | .error fault => some ⟨attempt.action.kind, attempt.action.message, fault.text⟩

def ofAttempts (attempts : List Attempt) : Report where
  succeeded := attempts.countP (!·.failed)
  failures := attempts.filterMap failure?

def isSuccess (report : Report) : Bool := report.failures.isEmpty

def status (report : Report) (secretName : Option String) : Status :=
  match report.failures with
  | [] =>
    { phase := some .reconciled
      message := some s!"{report.succeeded} actions applied"
      ready := true
      secretName }
  | first :: rest =>
    let failed := rest.length + 1
    let all := failed + report.succeeded
    { phase := some .failing
      message := some (s!"{failed} of {all} actions failed, first: " ++ first.message ++ ": " ++ first.error)
      secretName }

end Report

def Execution.report : Execution → Except Refusal Report
  | .finished attempts => .ok (.ofAttempts attempts)
  | .halted _ _ fault => .error (.unavailable fault.text)

end RealmPlan
