import RealmPlan.Proofs.Admission

namespace RealmPlan

namespace Schema
open Json

theorem text_conforms (notes : Notes) (s : String) : (text notes).json.Conforms (.text s) :=
  conforms_text.mpr (.inl ⟨s, rfl⟩)

theorem flag_conforms (notes : Notes) (b : Bool) : (flag notes).json.Conforms (.bool b) :=
  conforms_flag.mpr (.inl ⟨b, rfl⟩)

theorem optionalText_conforms (description value : Option String) :
    (optionalText description).json.Conforms (.optional .text value) := by
  cases value with
  | none => exact conforms_text.mpr (.inr ⟨rfl, rfl⟩)
  | some s => exact text_conforms _ s

theorem list_conforms {α : Type} {items : Schema} {write : α → Json} (notes : Notes)
    (conforms : ∀ value, items.json.Conforms (write value)) (values : List α) :
    (list notes items).json.Conforms (.list (values.map write)) := by
  refine conforms_list.mpr (.inl ⟨_, rfl, fun item member => ?_⟩)
  obtain ⟨value, _, rfl⟩ := List.mem_map.mp member
  exact conforms value

theorem table_conforms {α : Type} {values : Schema} {write : α → Json} (notes : Notes)
    (conforms : ∀ value, values.json.Conforms (write value)) (dict : Dict α) :
    (table notes values).json.Conforms (.object (dict.entries.map fun (key, value) => (key, write value))) := by
  refine conforms_table.mpr (.inl ⟨_, rfl, fun field member => ?_⟩)
  obtain ⟨entry, _, rfl⟩ := List.mem_map.mp member
  exact conforms entry.2

end Schema

namespace Role

theorem json_proper (role : Role) : role.json.Proper := by
  have attributes := Json.proper_dict Json.proper_texts role.attributes
  unfold json
  rw [Json.proper_object]
  cases role.hasId <;> simp [attributes, Json.proper_optional]

theorem json_conforms (role : Role) : schema.json.Conforms role.json := by
  refine (Schema.conforms_record (by decide)).mpr (.inl ⟨_, rfl, by simp, ?_⟩)
  have attributes := Schema.table_conforms { default := some (.object []) }
    (Schema.list_conforms {} (Schema.text_conforms {})) role.attributes
  cases role.hasId <;>
    simp [Dict.lookup_pair, attributes, Json.texts, Schema.text_conforms, Schema.flag_conforms,
      Schema.optionalText_conforms]

end Role

namespace Client

theorem json_proper (client : Client) : client.json.Proper := by
  unfold json
  rw [Json.proper_object]
  cases client.hasId <;> simp [Json.proper_texts, Json.proper_optional]

theorem json_conforms (client : Client) : schema.json.Conforms client.json := by
  refine (Schema.conforms_record (by decide)).mpr (.inl ⟨_, rfl, by simp, ?_⟩)
  cases client.hasId <;>
    simp [Dict.lookup_pair, Json.texts, Schema.text_conforms, Schema.flag_conforms, Schema.list_conforms,
      Schema.optionalText_conforms]

end Client

namespace Spec

theorem json_proper (spec : Spec) : spec.json.Proper := by
  simp [json, Client.json_proper, Role.json_proper]

theorem json_conforms (spec : Spec) : schema.json.Conforms spec.json := by
  refine (Schema.conforms_record (by decide)).mpr (.inl ⟨_, rfl, by simp, ?_⟩)
  simp [Dict.lookup_pair, Schema.text_conforms, Schema.list_conforms, Client.json_conforms, Role.json_conforms]

end Spec

namespace Status

theorem json_proper (status : Status) : status.json.Proper := by
  have phase : (Json.optional Phase.json status.phase).Proper := Json.proper_optional (fun _ => .text) status.phase
  simp [json, phase, Json.proper_optional]

theorem phase_conforms (phase : Option Phase) :
    (Schema.anyOf [Phase.schema, .null]).json.Conforms (.optional Phase.json phase) := by
  apply Schema.conforms_anyOf.mpr
  cases phase with
  | none => exact ⟨.null, by simp, Schema.conforms_null.mpr rfl⟩
  | some phase =>
    have known : phase ∈ Phase.all := by cases phase <;> decide
    exact ⟨Phase.schema, by simp, Schema.conforms_choice.mpr ⟨_, List.mem_map_of_mem known, rfl⟩⟩

theorem json_conforms (status : Status) : schema.json.Conforms status.json := by
  refine (Schema.conforms_record (by decide)).mpr (.inl ⟨_, rfl, by simp, ?_⟩)
  simp [Dict.lookup_pair, Schema.flag_conforms, Schema.optionalText_conforms, phase_conforms]

end Status

-- What the cluster is told about one part of a resource, under the only version that there is.
def Resource.published? (part : String) : Option Json :=
  match (definition.get? "spec").bind (Json.get? "versions") with
  | some (.list [version]) =>
    ((version.get? "schema").bind (Json.get? "openAPIV3Schema")).bind fun root => root.ofField? part
  | _ => none

-- What is written is as the cluster was told, and whatever is as it was told is read, as long as no object names a
-- field twice. None does that is read from text.
theorem published_schemas_agree :
    Resource.published? "spec" = some Spec.schema.json ∧
    Resource.published? "status" = some Status.schema.json ∧
    (∀ spec : Spec, spec.json.Proper ∧ Spec.schema.json.Conforms spec.json) ∧
    (∀ status : Status, status.json.Proper ∧ Status.schema.json.Conforms status.json) ∧
    (∀ (text : String) (document : Json), Json.parse? text = some document → document.Proper) ∧
    (∀ document : Json, document.Proper → Spec.schema.json.Conforms document →
      ∃ spec : Spec, Spec.read document = .ok spec) ∧
    ∀ document : Json, document.Proper → Status.schema.json.Conforms document →
      ∃ status, Document.optional (Status.read : Json → Reading Status) document = .ok status := by
  refine ⟨?_, ?_, ?_, ?_, ?_, Spec.schema_reads, Status.schema_reads⟩
  · rfl
  · rfl
  · exact fun spec => ⟨spec.json_proper, spec.json_conforms⟩
  · exact fun status => ⟨status.json_proper, status.json_conforms⟩
  · exact fun _ _ => Json.proper_of_parse?

-- What the schema says nothing about is admitted and left unread, wherever it stands.
theorem published_schemas_agree_unknown_field :
    let client := Json.object [("clientId", .text "app"), ("description", .null), ("origin", .list [])]
    let role := Json.object [("attributes", .object [("team", .texts ["finance"])]), ("name", .text "reader")]
    let document := Json.object
      [("client", client), ("realm", .text "main"), ("roles", .list [role]), ("version", .int 2)]
    document.Proper ∧ Spec.schema.json.Conforms document ∧ (∃ spec : Spec, Spec.read document = .ok spec) ∧
      Json.Proper .null ∧ Status.schema.json.Conforms .null ∧
      ∃ status, Document.optional (Status.read : Json → Reading Status) .null = .ok status := by
  intro client role document
  have nullDescription := Schema.optionalText_conforms none none
  rw [Json.optional] at nullDescription
  have clientConforms : Client.schema.json.Conforms client := by
    refine (Schema.conforms_record (by decide)).mpr (.inl ⟨_, rfl, by simp, ?_⟩)
    simp [Dict.lookup_pair, Schema.text_conforms, nullDescription]
  have roleConforms : Role.schema.json.Conforms role := by
    refine (Schema.conforms_record (by decide)).mpr (.inl ⟨_, rfl, by simp, ?_⟩)
    simp [Dict.lookup_pair, Schema.text_conforms, Schema.conforms_table, Schema.conforms_list, Json.texts]
  have conforms : Spec.schema.json.Conforms document := by
    refine (Schema.conforms_record (by decide)).mpr (.inl ⟨_, rfl, by simp, ?_⟩)
    simp [Dict.lookup_pair, clientConforms, roleConforms, Schema.text_conforms, Schema.conforms_list]
  have proper : document.Proper := by simp [document, client, role, Json.proper_texts]
  have nullConforms : Status.schema.json.Conforms .null := (Schema.conforms_record (by decide)).mpr (.inr ⟨rfl, rfl⟩)
  obtain ⟨_, _, _, _, _, specs, statuses⟩ := published_schemas_agree
  exact ⟨proper, conforms, specs document proper conforms, .null, nullConforms, statuses .null .null nullConforms⟩

end RealmPlan
