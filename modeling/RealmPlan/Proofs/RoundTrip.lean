import RealmPlan.Observation.Codec
import RealmPlan.Resource.Codec
import RealmPlan.Proofs.Reading
import RealmPlan.Proofs.Uniqueness

namespace RealmPlan
open Document

attribute [local simp] Role.Draft.take Client.Draft.take Status.Draft.take Spec.Draft.take Resource.Draft.take
  Observation.Draft.take

namespace Role

def Draft.names : List String :=
  ["id", "name", "description", "composite", "clientRole", "containerId", "attributes"]

theorem Draft.knows : Knows Draft.names (Draft.take (δ := Json)) := by
  intro draft name value unknown
  simp only [Draft.names, List.mem_cons, List.not_mem_nil, or_false, not_or] at unknown
  simp [unknown]

theorem read_json (role : Role) : Role.read role.json = .ok role := by
  show ((fields _ _ _ _ : Reading Draft) >>= Draft.finish) = _
  cases numbered : role.hasId with
  | true => simp [json, numbered, fields_object, once, Draft.finish, required]
  | false =>
    have unnumbered := hasId_eq_false_iff.mp numbered
    simp [json, numbered, fields_object, once, Draft.finish, required, unnumbered.symm]

-- A document of a role: as it is written, up to fields that no role has.
def Written (role : Role) : Json → Prop := Json.Padded Draft.names (· = role.json)

theorem recovered (role : Role) : Recovered Draft.names role.Written Role.read role.json role := by
  refine recovered_of_inner (fun _ => rfl) Draft.knows rfl ?_
  rintro document rfl
  exact read_json role

end Role

namespace Client

def Draft.names : List String :=
  ["id", "clientId", "name", "secret", "description", "enabled", "publicClient", "rootUrl", "redirectUris"]

theorem Draft.knows : Knows Draft.names (Draft.take (δ := Json)) := by
  intro draft name value unknown
  simp only [Draft.names, List.mem_cons, List.not_mem_nil, or_false, not_or] at unknown
  simp [unknown]

theorem read_json (client : Client) : Client.read client.json = .ok client := by
  show ((fields _ _ _ _ : Reading Draft) >>= Draft.finish) = _
  cases numbered : client.hasId with
  | true => simp [json, numbered, fields_object, once, Draft.finish, required]
  | false =>
    have unnumbered : client.id = "" := by simpa [hasId] using numbered
    simp [json, numbered, fields_object, once, Draft.finish, required, unnumbered.symm]

def Written (client : Client) : Json → Prop := Json.Padded Draft.names (· = client.json)

theorem recovered (client : Client) : Recovered Draft.names client.Written Client.read client.json client := by
  refine recovered_of_inner (fun _ => rfl) Draft.knows rfl ?_
  rintro document rfl
  exact read_json client

end Client

theorem Phase.read_json (phase : Phase) : Phase.read phase.json = .ok phase := by
  cases phase <;> rfl

namespace Status

def Draft.names : List String := ["phase", "message", "ready", "secretName"]

theorem Draft.knows : Knows Draft.names (Draft.take (δ := Json)) := by
  intro draft name value unknown
  simp only [Draft.names, List.mem_cons, List.not_mem_nil, or_false, not_or] at unknown
  simp [unknown]

theorem optional_phase (phase : Option Phase) : optional Phase.read (Json.optional Phase.json phase) = .ok phase := by
  cases phase with
  | none => rfl
  | some phase =>
    show ((some <$> Phase.read phase.json) : Reading (Option Phase)) = _
    rw [Phase.read_json, Reading.map_ok]

theorem read_object (all : List (String × Json)) : (Status.read (Json.object all) : Reading Status) =
    fields "struct KeycloakClientStatus" {} Draft.take (Json.object all) >>= fun draft => pure draft.finish := rfl

theorem read_json (status : Status) : Status.read status.json = .ok status := by
  rw [json, read_object]
  simp [fields_object, once, Draft.finish, optional_phase]

def Written (status : Status) : Json → Prop := Json.Padded Draft.names (· = status.json)

theorem recovered (status : Status) : Recovered Draft.names status.Written Status.read status.json status := by
  refine recovered_of_inner read_object Draft.knows rfl ?_
  rintro document rfl
  exact read_json status

end Status

-- What holds a record may hold any document of it.
theorem list_roles {roles : List Role} {documents : List Json} (written : List.Forall₂ Role.Written roles documents) :
    list Role.read (Json.list documents) = (.ok roles : Reading (List Role)) :=
  list_of_forall₂ (written.imp fun role document => role.recovered.padded document)

theorem roles_written (roles : List Role) : List.Forall₂ Role.Written roles (roles.map Role.json) := by
  rw [List.forall₂_map_right_iff]
  exact List.forall₂_same.mpr fun role _ => role.recovered.begins

namespace Spec

def Draft.names : List String := ["realm", "client", "roles"]

theorem Draft.knows : Knows Draft.names (Draft.take (δ := Json)) := by
  intro draft name value unknown
  simp only [Draft.names, List.mem_cons, List.not_mem_nil, or_false, not_or] at unknown
  simp [unknown]

-- A declaration around documents of its client and of its roles.
def around (realm : String) (client : Json) (roles : List Json) : Json :=
  .object [("client", client), ("realm", .text realm), ("roles", .list roles)]

def Written (spec : Spec) : Json → Prop :=
  Json.Padded Draft.names fun document => ∃ client roles,
    spec.client.Written client ∧ List.Forall₂ Role.Written spec.roles roles ∧
      document = around spec.realm client roles

theorem read_around (spec : Spec) {client : Json} {roles : List Json} (clientWritten : spec.client.Written client)
    (rolesWritten : List.Forall₂ Role.Written spec.roles roles) :
    Spec.read (around spec.realm client roles) = .ok spec := by
  have clientRead := spec.client.recovered.padded client clientWritten
  show ((fields _ _ _ _ : Reading Draft) >>= Draft.finish) = _
  simp [around, fields_object, once, Draft.finish, required, clientRead, list_roles rolesWritten]

theorem recovered (spec : Spec) : Recovered Draft.names spec.Written Spec.read spec.json spec := by
  refine recovered_of_inner (fun _ => rfl) Draft.knows
    ⟨_, _, spec.client.recovered.begins, roles_written spec.roles, rfl⟩ ?_
  rintro document ⟨client, roles, clientWritten, rolesWritten, rfl⟩
  exact read_around spec clientWritten rolesWritten

end Spec

namespace Resource

def Draft.names : List String := ["metadata", "spec", "status"]

theorem Draft.knows : Knows Draft.names (Draft.take (δ := Json)) := by
  intro draft name value unknown
  simp only [Draft.names, List.mem_cons, List.not_mem_nil, or_false, not_or] at unknown
  simp [unknown]

-- Version and kind are written and not looked at when they are read.
def around (metadata spec : Json) (status : Option Json) : Json :=
  .object <|
    [("apiVersion", .text apiVersion), ("kind", .text kind), ("metadata", metadata), ("spec", spec)] ++
    Json.field? "status" id status

def Written (resource : Resource) : Json → Prop :=
  Json.Padded Draft.names fun document => ∃ spec status,
    resource.spec.Written spec ∧ Option.Rel Status.Written resource.status status ∧
      document = around resource.metadata.json spec status

theorem read_around (resource : Resource) {spec : Json} {status : Option Json}
    (metadataRead : Metadata.read resource.metadata.json = .ok resource.metadata)
    (specWritten : resource.spec.Written spec) (statusWritten : Option.Rel Status.Written resource.status status) :
    Resource.read (around resource.metadata.json spec status) = .ok resource := by
  have specRead := resource.spec.recovered.padded spec specWritten
  show ((fields _ _ _ _ : Reading Draft) >>= Draft.finish) = _
  obtain ⟨metadata, declared, published⟩ := resource
  cases statusWritten with
  | none =>
    simp [around, Json.field?, fields_object, once, Draft.finish, required, metadataRead, specRead]
  | @some status _ written =>
    have statusRead := optional_padded written (status.recovered.padded _ written)
    simp [around, Json.field?, fields_object, once, Draft.finish, required, metadataRead, specRead,
      statusRead]

theorem json_eq (resource : Resource) :
    resource.json = around resource.metadata.json resource.spec.json (resource.status.map Status.json) := by
  unfold json
  cases resource.status <;> rfl

theorem recovered (resource : Resource)
    (metadataRead : Metadata.read resource.metadata.json = .ok resource.metadata) :
    Recovered Draft.names resource.Written Resource.read resource.json resource := by
  have status : Option.Rel Status.Written resource.status (resource.status.map Status.json) := by
    cases resource.status with
    | none => exact .none
    | some status => exact .some status.recovered.begins
  rw [json_eq]
  refine recovered_of_inner (fun _ => rfl) Draft.knows ⟨_, _, resource.spec.recovered.begins, status, rfl⟩ ?_
  rintro document ⟨spec, status, specWritten, statusWritten, rfl⟩
  exact read_around resource metadataRead specWritten statusWritten

end Resource

namespace Observation

def Draft.names : List String := ["realm", "client", "clientSecret", "roles"]

theorem Draft.knows : Knows Draft.names (Draft.take (δ := Json)) := by
  intro draft name value unknown
  simp only [Draft.names, List.mem_cons, List.not_mem_nil, or_false, not_or] at unknown
  simp [unknown]

def around (realm : String) (client : Option Json) (clientSecret : Json) (roles : List Json) : Json :=
  .object [("client", .optional id client), ("clientSecret", clientSecret), ("realm", .text realm),
    ("roles", .list roles)]

def Written (observation : Observation) : Json → Prop :=
  Json.Padded Draft.names fun document => ∃ client roles,
    Option.Rel Client.Written observation.client client ∧ List.Forall₂ Role.Written observation.roles roles ∧
      document = around observation.realm client (.optional Secret.json observation.clientSecret) roles

theorem optional_client {client : Option Client} {document : Option Json}
    (written : Option.Rel Client.Written client document) :
    optional Client.read (Json.optional id document) = .ok client := by
  cases written with
  | none => rfl
  | @some client document written => exact optional_padded written (client.recovered.padded document written)

theorem optional_secret {secret : Option Secret} (reads : ∀ held ∈ secret, Secret.read held.json = .ok held) :
    optional Secret.read (Json.optional Secret.json secret) = .ok secret := by
  cases secret with
  | none => rfl
  | some held => exact optional_object (reads held rfl)

theorem read_around (observation : Observation) {client : Option Json} {roles : List Json}
    (secretRead : ∀ secret ∈ observation.clientSecret, Secret.read secret.json = .ok secret)
    (clientWritten : Option.Rel Client.Written observation.client client)
    (rolesWritten : List.Forall₂ Role.Written observation.roles roles) :
    Observation.read
      (around observation.realm client (.optional Secret.json observation.clientSecret) roles) = .ok observation := by
  show ((fields _ _ _ _ : Reading Draft) >>= fun draft => pure draft.finish) = _
  simp [around, fields_object, once, Draft.finish, optional_client clientWritten,
    optional_secret secretRead, list_roles rolesWritten]

theorem read_object (all : List (String × Json)) : (Observation.read (Json.object all) : Reading Observation) =
    fields "struct ClientState" {} Draft.take (Json.object all) >>= fun draft => pure draft.finish := rfl

theorem json_eq (observation : Observation) :
    observation.json = around observation.realm (observation.client.map Client.json)
      (.optional Secret.json observation.clientSecret) (observation.roles.map Role.json) := by
  unfold json
  cases observation.client <;> rfl

theorem recovered (observation : Observation)
    (secretRead : ∀ secret ∈ observation.clientSecret, Secret.read secret.json = .ok secret) :
    Recovered Draft.names observation.Written Observation.read observation.json observation := by
  have client : Option.Rel Client.Written observation.client (observation.client.map Client.json) := by
    cases observation.client with
    | none => exact .none
    | some client => exact .some client.recovered.begins
  rw [json_eq]
  refine recovered_of_inner read_object Draft.knows ⟨_, _, client, roles_written observation.roles, rfl⟩ ?_
  rintro document ⟨client, roles, clientWritten, rolesWritten, rfl⟩
  exact read_around observation secretRead clientWritten rolesWritten

end Observation

-- Every record is recovered as soon as the parts of it are that are the cluster's own.
theorem records_recovered :
    (∀ role, Recovered Role.Draft.names (Role.Written role) Role.read role.json role) ∧
    (∀ client, Recovered Client.Draft.names (Client.Written client) Client.read client.json client) ∧
    (∀ spec, Recovered Spec.Draft.names (Spec.Written spec) Spec.read spec.json spec) ∧
    (∀ status, Recovered Status.Draft.names (Status.Written status) Status.read status.json status) ∧
    (∀ resource, Metadata.read resource.metadata.json = .ok resource.metadata →
      Recovered Resource.Draft.names (Resource.Written resource) Resource.read resource.json resource) ∧
    (∀ observation, (∀ secret ∈ observation.clientSecret, Secret.read secret.json = .ok secret) →
      Recovered Observation.Draft.names (Observation.Written observation) Observation.read observation.json
        observation) :=
  ⟨Role.recovered, Client.recovered, Spec.recovered, Status.recovered, Resource.recovered, Observation.recovered⟩

-- Fields that nobody knows stand in the resource, in its declaration and in one of its roles, whose id is not written.
theorem records_recovered_unknown_fields :
    let resource : Resource :=
      { metadata := { name := some "app", finalizers := some ["keep"] }
        spec :=
          { realm := "main"
            client := { clientId := "app", enabled := false }
            roles := [Role.named "a"] } }
    let padded : Json :=
      .object
        [("apiVersion", .text Resource.apiVersion), ("kind", .text Resource.kind),
          ("metadata", resource.metadata.json), ("owner", .text "someone"),
          ("spec", .object
            [("client", resource.spec.client.json), ("realm", .text "main"),
              ("roles", .list [.object
                [("attributes", .object []), ("clientRole", .bool false), ("composite", .bool false),
                  ("composites", .object [("realm", .list [])]), ("containerId", .null), ("description", .null),
                  ("name", .text "a")]]),
              ("version", .int 2)])]
    let observation : Observation :=
      { realm := "main"
        clientSecret := some
          { metadata := { name := some "credentials" }
            data := some (.ofList [("CLIENT_ID", [97, 112, 112])])
            type := some "Opaque" } }
    (Metadata.read resource.metadata.json = .ok resource.metadata ∧ Resource.read resource.json = .ok resource ∧
      Resource.read padded = .ok resource) ∧
    (∀ secret ∈ observation.clientSecret, Secret.read secret.json = .ok secret) ∧
      Observation.read observation.json = .ok observation := by
  intro resource padded observation
  obtain ⟨roles, clients, _, _, resources, observations⟩ := records_recovered
  have metadataRead : Metadata.read resource.metadata.json = .ok resource.metadata := by
    with_unfolding_all rfl
  have secretRead : ∀ secret ∈ observation.clientSecret, Secret.read secret.json = .ok secret := by
    rintro secret ⟨⟩
    with_unfolding_all rfl
  have roleWritten : Role.Written (Role.named "a") (.object
      ([("attributes", .object []), ("clientRole", .bool false), ("composite", .bool false)] ++
        ("composites", .object [("realm", .list [])]) ::
          [("containerId", .null), ("description", .null), ("name", .text "a")])) :=
    (roles _).grows _ _ _ _ (by decide) (roles _).begins
  have specWritten : Spec.Written resource.spec (.object
      ([("client", resource.spec.client.json), ("realm", .text "main"), ("roles", .list [_])] ++
        ("version", .int 2) :: [])) :=
    .insert _ (by decide) (.of_inner ⟨_, _, (clients _).begins, .cons roleWritten .nil, rfl⟩)
  have written : Resource.Written resource (.object
      ([("apiVersion", .text Resource.apiVersion), ("kind", .text Resource.kind),
          ("metadata", resource.metadata.json)] ++ ("owner", .text "someone") :: [("spec", _)])) :=
    .insert _ (by decide) (.of_inner ⟨_, none, specWritten, .none, rfl⟩)
  have recovered := resources resource metadataRead
  exact ⟨⟨metadataRead, recovered.back, recovered.padded padded written⟩, secretRead,
    (observations observation secretRead).back⟩

end RealmPlan
