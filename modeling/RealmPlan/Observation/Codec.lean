import RealmPlan.Client.Codec
import RealmPlan.Observation
import RealmPlan.Role.Codec
import RealmPlan.Secret.Codec

namespace RealmPlan.Observation
open Document

variable {δ : Type} {m : Type → Type} [Monad m] [MonadExcept Mismatch m] [Document δ m]

structure Draft where
  realm : Option String := none
  client : Option (Option Client) := none
  clientSecret : Option (Option Secret) := none
  roles : Option (List Role) := none

def Draft.take (draft : Draft) (name : String) (v : δ) : m Draft :=
  match name with
  | "realm" => do return { draft with realm := ← once name draft.realm string v }
  | "client" => do return { draft with client := ← once name draft.client (optional Client.read) v }
  | "clientSecret" => do
    return { draft with clientSecret := ← once name draft.clientSecret (optional Secret.read) v }
  | "roles" => do return { draft with roles := ← once name draft.roles (list Role.read) v }
  | _ => return draft

def Draft.finish (draft : Draft) : Observation where
  realm := draft.realm.getD ""
  client := draft.client.join
  clientSecret := draft.clientSecret.join
  roles := draft.roles.getD []

def ofRow (row : Row δ) : m Observation := do
  let (realm, row) ← row.nextD string ""
  let (client, row) ← row.nextD (optional Client.read) none
  let (clientSecret, row) ← row.nextD (optional Secret.read) none
  let (roles, row) ← row.nextD (list Role.read) []
  row.finish { realm, client, clientSecret, roles }

def read (v : δ) : m Observation :=
  match positional? v with
  | some values => ofRow ⟨0, values⟩
  | none => do return (← fields "struct ClientState" ({} : Draft) Draft.take v).finish

def json (observation : Observation) : Json :=
  .object [
    ("client", .optional Client.json observation.client),
    ("clientSecret", .optional Secret.json observation.clientSecret),
    ("realm", .text observation.realm),
    ("roles", .list (observation.roles.map Role.json))]

end RealmPlan.Observation
