import RealmPlan.Document
import RealmPlan.Metadata

namespace RealmPlan
open Document

variable {δ : Type} {m : Type → Type} [Monad m] [MonadExcept Mismatch m] [Document δ m]

-- The cluster's own records are lenient: nothing is the same as an absent field, and of a repeated
-- field the last value stays.
def ManagedFields.take (entry : ManagedFields) (name : String) (v : δ) : m ManagedFields :=
  match name with
  | "apiVersion" => do return { entry with apiVersion := ← optional string v }
  | "fieldsType" => do return { entry with fieldsType := ← optional string v }
  | "fieldsV1" => do return { entry with fieldsV1 := ← optional value v }
  | "manager" => do return { entry with manager := ← optional string v }
  | "operation" => do return { entry with operation := ← optional string v }
  | "subresource" => do return { entry with subresource := ← optional string v }
  | "time" => do return { entry with time := ← optional instant v }
  | _ => return entry

def ManagedFields.read (v : δ) : m ManagedFields := fields "ManagedFieldsEntry" {} take v

def Instant.json (instant : Instant) : Json := .text instant.write

def ManagedFields.json (entry : ManagedFields) : Json :=
  .object <|
    Json.field? "apiVersion" .text entry.apiVersion ++
    Json.field? "fieldsType" .text entry.fieldsType ++
    Json.field? "fieldsV1" id entry.fieldsV1 ++
    Json.field? "manager" .text entry.manager ++
    Json.field? "operation" .text entry.operation ++
    Json.field? "subresource" .text entry.subresource ++
    Json.field? "time" Instant.json entry.time

def OwnerReference.take (owner : OwnerReference) (name : String) (v : δ) : m OwnerReference :=
  match name with
  | "apiVersion" => do return { owner with apiVersion := (← optional string v).getD "" }
  | "blockOwnerDeletion" => do return { owner with blockOwnerDeletion := ← optional flag v }
  | "controller" => do return { owner with controller := ← optional flag v }
  | "kind" => do return { owner with kind := (← optional string v).getD "" }
  | "name" => do return { owner with name := (← optional string v).getD "" }
  | "uid" => do return { owner with uid := (← optional string v).getD "" }
  | _ => return owner

def OwnerReference.read (v : δ) : m OwnerReference := fields "OwnerReference" {} take v

def OwnerReference.json (owner : OwnerReference) : Json :=
  .object <|
    [("apiVersion", .text owner.apiVersion)] ++
    Json.field? "blockOwnerDeletion" .bool owner.blockOwnerDeletion ++
    Json.field? "controller" .bool owner.controller ++
    [("kind", .text owner.kind), ("name", .text owner.name), ("uid", .text owner.uid)]

def Metadata.take (metadata : Metadata) (name : String) (v : δ) : m Metadata :=
  match name with
  | "annotations" => do return { metadata with annotations := ← optional (dict string) v }
  | "creationTimestamp" => do return { metadata with creationTimestamp := ← optional instant v }
  | "deletionGracePeriodSeconds" => do
    return { metadata with deletionGracePeriodSeconds := ← optional integer v }
  | "deletionTimestamp" => do return { metadata with deletionTimestamp := ← optional instant v }
  | "finalizers" => do return { metadata with finalizers := ← optional strings v }
  | "generateName" => do return { metadata with generateName := ← optional string v }
  | "generation" => do return { metadata with generation := ← optional integer v }
  | "labels" => do return { metadata with labels := ← optional (dict string) v }
  | "managedFields" => do return { metadata with managedFields := ← optional (list ManagedFields.read) v }
  | "name" => do return { metadata with name := ← optional string v }
  | "namespace" => do return { metadata with namespaceName := ← optional string v }
  | "ownerReferences" => do
    return { metadata with ownerReferences := ← optional (list OwnerReference.read) v }
  | "resourceVersion" => do return { metadata with resourceVersion := ← optional string v }
  | "selfLink" => do return { metadata with selfLink := ← optional string v }
  | "uid" => do return { metadata with uid := ← optional string v }
  | _ => return metadata

def Metadata.read (v : δ) : m Metadata := fields "ObjectMeta" {} take v

def Dict.textsJson (table : Dict String) : Json :=
  .object (table.entries.map fun (key, text) => (key, .text text))

def Metadata.json (metadata : Metadata) : Json :=
  .object <|
    Json.field? "annotations" Dict.textsJson metadata.annotations ++
    Json.field? "creationTimestamp" Instant.json metadata.creationTimestamp ++
    Json.field? "deletionGracePeriodSeconds" .int metadata.deletionGracePeriodSeconds ++
    Json.field? "deletionTimestamp" Instant.json metadata.deletionTimestamp ++
    Json.field? "finalizers" Json.texts metadata.finalizers ++
    Json.field? "generateName" .text metadata.generateName ++
    Json.field? "generation" .int metadata.generation ++
    Json.field? "labels" Dict.textsJson metadata.labels ++
    Json.field? "managedFields" (fun all => .list (all.map ManagedFields.json)) metadata.managedFields ++
    Json.field? "name" .text metadata.name ++
    Json.field? "namespace" .text metadata.namespaceName ++
    Json.field? "ownerReferences" (fun all => .list (all.map OwnerReference.json)) metadata.ownerReferences ++
    Json.field? "resourceVersion" .text metadata.resourceVersion ++
    Json.field? "selfLink" .text metadata.selfLink ++
    Json.field? "uid" .text metadata.uid

end RealmPlan
