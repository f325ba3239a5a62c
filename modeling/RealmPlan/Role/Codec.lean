import RealmPlan.Document
import RealmPlan.Role

namespace RealmPlan.Role
open Document

variable {δ : Type} {m : Type → Type} [Monad m] [MonadExcept Mismatch m] [Document δ m]

structure Draft where
  id : Option String := none
  name : Option String := none
  description : Option (Option String) := none
  composite : Option Bool := none
  clientRole : Option Bool := none
  containerId : Option (Option String) := none
  attributes : Option (Dict (List String)) := none

def Draft.take (draft : Draft) (name : String) (v : δ) : m Draft :=
  match name with
  | "id" => do return { draft with id := ← once name draft.id string v }
  | "name" => do return { draft with name := ← once name draft.name string v }
  | "description" => do return { draft with description := ← once name draft.description (optional string) v }
  | "composite" => do return { draft with composite := ← once name draft.composite flag v }
  | "clientRole" => do return { draft with clientRole := ← once name draft.clientRole flag v }
  | "containerId" => do return { draft with containerId := ← once name draft.containerId (optional string) v }
  | "attributes" => do return { draft with attributes := ← once name draft.attributes (dict strings) v }
  | _ => return draft

def Draft.finish (draft : Draft) : m Role := do
  let name ← required "name" draft.name
  return {
    id := draft.id.getD ""
    name
    description := draft.description.join
    composite := draft.composite.getD false
    clientRole := draft.clientRole.getD false
    containerId := draft.containerId.join
    attributes := draft.attributes.getD .empty }

def ofRow (row : Row δ) : m Role := do
  let (id, row) ← row.nextD string ""
  let (name, row) ← row.next "RoleRepresentation" 7 string
  let (description, row) ← row.nextD (optional string) none
  let (composite, row) ← row.nextD flag false
  let (clientRole, row) ← row.nextD flag false
  let (containerId, row) ← row.nextD (optional string) none
  let (attributes, row) ← row.nextD (dict strings) .empty
  row.finish { id, name, description, composite, clientRole, containerId, attributes }

def read (v : δ) : m Role :=
  match positional? v with
  | some values => ofRow ⟨0, values⟩
  | none => do (← fields "struct RoleRepresentation" ({} : Draft) Draft.take v).finish

-- An empty id is not written.
def json (role : Role) : Json :=
  .object <|
    [("attributes", .object (role.attributes.entries.map fun (key, values) => (key, .texts values))),
     ("clientRole", .bool role.clientRole),
     ("composite", .bool role.composite),
     ("containerId", .optional .text role.containerId),
     ("description", .optional .text role.description)] ++
    (if role.hasId then [("id", .text role.id)] else []) ++
    [("name", .text role.name)]

end RealmPlan.Role
