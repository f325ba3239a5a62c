import RealmPlan.Client.Codec
import RealmPlan.Metadata.Codec
import RealmPlan.Resource
import RealmPlan.Role.Codec
import RealmPlan.Status.Codec

namespace RealmPlan
open Document

variable {δ : Type} {m : Type → Type} [Monad m] [MonadExcept Mismatch m] [Document δ m]

namespace Spec

structure Draft where
  realm : Option String := none
  client : Option Client := none
  roles : Option (List Role) := none

def Draft.take (draft : Draft) (name : String) (v : δ) : m Draft :=
  match name with
  | "realm" => do return { draft with realm := ← once name draft.realm string v }
  | "client" => do return { draft with client := ← once name draft.client Client.read v }
  | "roles" => do return { draft with roles := ← once name draft.roles (list Role.read) v }
  | _ => return draft

def Draft.finish (draft : Draft) : m Spec := do
  let realm ← required "realm" draft.realm
  let client ← required "client" draft.client
  return { realm, client, roles := draft.roles.getD [] }

def ofRow (row : Row δ) : m Spec := do
  let (realm, row) ← row.next "KeycloakClientSpec" 3 string
  let (client, row) ← row.next "KeycloakClientSpec" 3 Client.read
  let (roles, row) ← row.nextD (list Role.read) []
  row.finish { realm, client, roles }

def read (v : δ) : m Spec :=
  match positional? v with
  | some values => ofRow ⟨0, values⟩
  | none => do (← fields "struct KeycloakClientSpec" ({} : Draft) Draft.take v).finish

def json (spec : Spec) : Json :=
  .object [
    ("client", spec.client.json),
    ("realm", .text spec.realm),
    ("roles", .list (spec.roles.map Role.json))]

end Spec

namespace Resource

structure Draft where
  metadata : Option Metadata := none
  spec : Option Spec := none
  status : Option (Option Status) := none

def Draft.take (draft : Draft) (name : String) (v : δ) : m Draft :=
  match name with
  | "metadata" => do return { draft with metadata := ← once name draft.metadata Metadata.read v }
  | "spec" => do return { draft with spec := ← once name draft.spec Spec.read v }
  | "status" => do return { draft with status := ← once name draft.status (optional Status.read) v }
  | _ => return draft

def Draft.finish (draft : Draft) : m Resource := do
  let metadata ← required "metadata" draft.metadata
  let spec ← required "spec" draft.spec
  return { metadata, spec, status := draft.status.join }

-- In list form the status stands too, if only as nothing.
def ofRow (row : Row δ) : m Resource := do
  let (metadata, row) ← row.next "KeycloakClient" 3 Metadata.read
  let (spec, row) ← row.next "KeycloakClient" 3 Spec.read
  let (status, row) ← row.next "KeycloakClient" 3 (optional Status.read)
  row.finish { metadata, spec, status }

def read (v : δ) : m Resource :=
  match positional? v with
  | some values => ofRow ⟨0, values⟩
  | none => do (← fields "struct KeycloakClient" ({} : Draft) Draft.take v).finish

def json (resource : Resource) : Json :=
  .object <|
    [("apiVersion", .text apiVersion),
     ("kind", .text kind),
     ("metadata", resource.metadata.json),
     ("spec", resource.spec.json)] ++
    Json.field? "status" Status.json resource.status

end Resource
end RealmPlan
