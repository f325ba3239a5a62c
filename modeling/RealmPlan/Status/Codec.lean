import RealmPlan.Document
import RealmPlan.Status

namespace RealmPlan
open Document

variable {δ : Type} {m : Type → Type} [Monad m] [MonadExcept Mismatch m] [Document δ m]

def Phase.read (v : δ) : m Phase := do
  let known := Phase.all.map Phase.name
  let name ← variant known v
  match Phase.all.find? (·.name == name) with
  | some phase => return phase
  | none => throw (.unknownVariant name known)

def Phase.json (phase : Phase) : Json := .text phase.name

namespace Status

structure Draft where
  phase : Option (Option Phase) := none
  message : Option (Option String) := none
  ready : Option Bool := none
  secretName : Option (Option String) := none

def Draft.take (draft : Draft) (name : String) (v : δ) : m Draft :=
  match name with
  | "phase" => do return { draft with phase := ← once name draft.phase (optional Phase.read) v }
  | "message" => do return { draft with message := ← once name draft.message (optional string) v }
  | "ready" => do return { draft with ready := ← once name draft.ready flag v }
  | "secretName" => do return { draft with secretName := ← once name draft.secretName (optional string) v }
  | _ => return draft

def Draft.finish (draft : Draft) : Status where
  phase := draft.phase.join
  message := draft.message.join
  ready := draft.ready.getD false
  secretName := draft.secretName.join

def ofRow (row : Row δ) : m Status := do
  let (phase, row) ← row.nextD (optional Phase.read) none
  let (message, row) ← row.nextD (optional string) none
  let (ready, row) ← row.nextD flag false
  let (secretName, row) ← row.nextD (optional string) none
  row.finish { phase, message, ready, secretName }

def read (v : δ) : m Status :=
  match positional? v with
  | some values => ofRow ⟨0, values⟩
  | none => do return (← fields "struct KeycloakClientStatus" ({} : Draft) Draft.take v).finish

def json (status : Status) : Json :=
  .object [
    ("message", .optional .text status.message),
    ("phase", .optional Phase.json status.phase),
    ("ready", .bool status.ready),
    ("secretName", .optional .text status.secretName)]

end Status
end RealmPlan
