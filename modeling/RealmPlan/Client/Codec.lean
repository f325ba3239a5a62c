import RealmPlan.Client
import RealmPlan.Document

namespace RealmPlan.Client
open Document

variable {δ : Type} {m : Type → Type} [Monad m] [MonadExcept Mismatch m] [Document δ m]

structure Draft where
  id : Option String := none
  clientId : Option String := none
  name : Option (Option String) := none
  secret : Option (Option String) := none
  description : Option (Option String) := none
  enabled : Option Bool := none
  publicClient : Option Bool := none
  rootUrl : Option (Option String) := none
  redirectUris : Option (List String) := none

def Draft.take (draft : Draft) (name : String) (v : δ) : m Draft :=
  match name with
  | "id" => do return { draft with id := ← once name draft.id string v }
  | "clientId" => do return { draft with clientId := ← once name draft.clientId string v }
  | "name" => do return { draft with name := ← once name draft.name (optional string) v }
  | "secret" => do return { draft with secret := ← once name draft.secret (optional string) v }
  | "description" => do return { draft with description := ← once name draft.description (optional string) v }
  | "enabled" => do return { draft with enabled := ← once name draft.enabled flag v }
  | "publicClient" => do return { draft with publicClient := ← once name draft.publicClient flag v }
  | "rootUrl" => do return { draft with rootUrl := ← once name draft.rootUrl (optional string) v }
  | "redirectUris" => do return { draft with redirectUris := ← once name draft.redirectUris strings v }
  | _ => return draft

def Draft.finish (draft : Draft) : m Client := do
  let clientId ← required "clientId" draft.clientId
  return {
    id := draft.id.getD ""
    clientId
    name := draft.name.join
    secret := draft.secret.join
    description := draft.description.join
    enabled := draft.enabled.getD true
    publicClient := draft.publicClient.getD false
    rootUrl := draft.rootUrl.join
    redirectUris := draft.redirectUris.getD [] }

def ofRow (row : Row δ) : m Client := do
  let (id, row) ← row.nextD string ""
  let (clientId, row) ← row.next "KeycloakApiClient" 9 string
  let (name, row) ← row.nextD (optional string) none
  let (secret, row) ← row.nextD (optional string) none
  let (description, row) ← row.nextD (optional string) none
  let (enabled, row) ← row.nextD flag true
  let (publicClient, row) ← row.nextD flag false
  let (rootUrl, row) ← row.nextD (optional string) none
  let (redirectUris, row) ← row.nextD strings []
  row.finish { id, clientId, name, secret, description, enabled, publicClient, rootUrl, redirectUris }

def read (v : δ) : m Client :=
  match positional? v with
  | some values => ofRow ⟨0, values⟩
  | none => do (← fields "struct KeycloakApiClient" ({} : Draft) Draft.take v).finish

-- An empty id is not written.
def json (client : Client) : Json :=
  .object <|
    [("clientId", .text client.clientId),
     ("description", .optional .text client.description),
     ("enabled", .bool client.enabled)] ++
    (if client.hasId then [("id", .text client.id)] else []) ++
    [("name", .optional .text client.name),
     ("publicClient", .bool client.publicClient),
     ("redirectUris", .texts client.redirectUris),
     ("rootUrl", .optional .text client.rootUrl),
     ("secret", .optional .text client.secret)]

end RealmPlan.Client
