import RealmPlan.Schema.Resource
import RealmPlan.Proofs.Conformity
import RealmPlan.Proofs.Proper
import RealmPlan.Proofs.RoundTrip

namespace RealmPlan
open Document

variable {α β σ : Type}

theorem Document.mapM_of_each {read : β → Reading α} {documents : List β}
    (each : ∀ document ∈ documents, ∃ value, read document = .ok value) :
    ∃ values, documents.mapM read = .ok values := by
  induction documents with
  | nil => exact ⟨[], rfl⟩
  | cons document rest ih =>
    obtain ⟨value, first⟩ := each document List.mem_cons_self
    obtain ⟨values, later⟩ := ih fun other member => each other (List.mem_cons_of_mem _ member)
    refine ⟨value :: values, ?_⟩
    rw [List.mapM_cons, first, later]
    rfl

namespace Schema

-- Whatever the schema admits is read.
def Reads (schema : Schema) (read : Json → Reading α) : Prop :=
  ∀ value, value.Proper → schema.json.Conforms value → ∃ result, read value = .ok result

theorem reads_text {notes : Notes} (plain : notes.nullable = false) : (text notes).Reads string := by
  intro value _ conforms
  obtain ⟨s, rfl⟩ := (conforms_text.mp conforms).resolve_right (by simp [plain])
  exact ⟨s, rfl⟩

theorem reads_flag {notes : Notes} (plain : notes.nullable = false) : (flag notes).Reads Document.flag := by
  intro value _ conforms
  obtain ⟨b, rfl⟩ := (conforms_flag.mp conforms).resolve_right (by simp [plain])
  exact ⟨b, rfl⟩

theorem reads_optionalText (description : Option String) :
    (optionalText description).Reads (Document.optional string) := by
  intro value _ conforms
  rcases conforms_text.mp conforms with ⟨s, rfl⟩ | ⟨_, rfl⟩
  · exact ⟨some s, rfl⟩
  · exact ⟨none, rfl⟩

theorem reads_list {notes : Notes} {items : Schema} {read : Json → Reading α} (plain : notes.nullable = false)
    (reads : items.Reads read) : (list notes items).Reads (Document.list read) := by
  intro value proper conforms
  obtain ⟨all, rfl, conform⟩ := (conforms_list.mp conforms).resolve_right (by simp [plain])
  have each := Json.proper_list.mp proper
  exact mapM_of_each fun item member => reads item (each item member) (conform item member)

theorem reads_table {notes : Notes} {values : Schema} {read : Json → Reading α} (plain : notes.nullable = false)
    (reads : values.Reads read) : (table notes values).Reads (Document.dict read) := by
  intro value proper conforms
  obtain ⟨own, rfl, conform⟩ := (conforms_table.mp conforms).resolve_right (by simp [plain])
  have each := (Json.proper_object.mp proper).2
  have rows : ∃ rows, own.mapM (fun field => do return (field.1, ← read field.2)) = (.ok rows : Reading _) := by
    apply mapM_of_each
    intro field member
    obtain ⟨result, isRead⟩ := reads field.2 (each field member) (conform field member)
    refine ⟨(field.1, result), ?_⟩
    rw [isRead]
    rfl
  obtain ⟨rows, areRead⟩ := rows
  refine ⟨Dict.ofList rows, ?_⟩
  show ((own.mapM _ : Reading (List (String × α))) >>= fun rows => pure (Dict.ofList rows)) = _
  rw [areRead]
  rfl

def fields : Schema → List (String × Schema)
  | record _ fields _ => fields
  | _ => []

-- A draft takes what conforms under this name as long as it has nothing of that name, and has nothing else more
-- afterwards.
def Taken (take : σ → String → Json → Reading σ) (has : σ → String → Bool) (name : String) (schema : Schema) : Prop :=
  ∀ state value, has state name = false → value.Proper → schema.json.Conforms value →
    ∃ next, take state name value = .ok next ∧ ∀ other, has next other = (has state other || other == name)

theorem taken_of_slot {take : σ → String → Json → Reading σ} {has : σ → String → Bool} {name : String} {schema : Schema}
    {read : Json → Reading α} (slot : σ → Option α) (put : σ → Option α → σ) (reads : schema.Reads read)
    (takes : ∀ state value,
      take state name value = once name (slot state) read value >>= fun filled => pure (put state filled))
    (has_slot : ∀ state, has state name = (slot state).isSome)
    (has_put : ∀ state filled other, has (put state (some filled)) other = (has state other || other == name)) :
    Taken take has name schema := by
  intro state value free proper conforms
  obtain ⟨result, isRead⟩ := reads value proper conforms
  have empty : slot state = none := by
    rw [has_slot] at free
    exact Option.not_isSome_iff_eq_none.mp (Bool.eq_false_iff.mp free)
  refine ⟨put state (some result), ?_, has_put state result⟩
  rw [takes, empty, once, isRead]
  rfl

-- A draft that starts with nothing and takes whatever the schema says about the names that it knows.
structure Takes (schema : Schema) (names : List String) (start : σ) (take : σ → String → Json → Reading σ)
    (has : σ → String → Bool) : Prop where
  empty : ∀ name, has start name = false
  knows : Knows names take
  known : ∀ name ∈ names, name ∈ schema.fields.map Prod.fst
  taken : ∀ field ∈ schema.fields, Taken take has field.1 field.2

namespace Takes
variable {schema : Schema} {names : List String} {start : σ} {take : σ → String → Json → Reading σ}
  {has : σ → String → Bool}

theorem step (takes : Takes schema names start take has) {state : σ} {field : String × Json}
    (free : has state field.1 = false) (proper : field.2.Proper)
    (conform : ∀ inner, schema.fields.lookup field.1 = some inner → inner.json.Conforms field.2) :
    ∃ next, take state field.1 field.2 = .ok next ∧
      ∀ name, has next name = true ↔ has state name = true ∨ name = field.1 ∧ name ∈ names := by
  by_cases isKnown : field.1 ∈ names
  · obtain ⟨inner, found⟩ := Dict.exists_lookup (List.mem_map.mp (takes.known field.1 isKnown))
    obtain ⟨_, _, split, _⟩ := List.lookup_eq_some_iff.mp found
    have member : (field.1, inner) ∈ schema.fields := split ▸ List.mem_append_right _ List.mem_cons_self
    obtain ⟨next, isTaken, marks⟩ := takes.taken _ member state field.2 free proper (conform inner found)
    refine ⟨next, isTaken, fun name => ?_⟩
    rw [marks, Bool.or_eq_true, beq_iff_eq]
    exact or_congr_right ⟨fun same => ⟨same, same ▸ isKnown⟩, And.left⟩
  · refine ⟨state, takes.knows state field.1 field.2 isKnown, fun name => ?_⟩
    exact ⟨.inl, fun had => had.resolve_right fun ⟨same, isName⟩ => isKnown (same ▸ isName)⟩

-- In whatever order the fields stand, none is in the way of a later one.
theorem run (takes : Takes schema names start take has) {own : List (String × Json)}
    (once : (own.map Prod.fst).Nodup) (proper : ∀ field ∈ own, field.2.Proper)
    (conform : ∀ field ∈ own, ∀ inner, schema.fields.lookup field.1 = some inner → inner.json.Conforms field.2)
    {state : σ} (free : ∀ field ∈ own, has state field.1 = false) :
    ∃ last, own.foldlM (fun state field => take state field.1 field.2) state = .ok last ∧
      ∀ name, has last name = true ↔ has state name = true ∨ name ∈ own.map Prod.fst ∧ name ∈ names := by
  induction own generalizing state with
  | nil => exact ⟨state, rfl, by simp⟩
  | cons field rest ih =>
    obtain ⟨fresh, onceLater⟩ := List.nodup_cons.mp once
    obtain ⟨next, isTaken, marks⟩ := takes.step (free field List.mem_cons_self) (proper field List.mem_cons_self)
      (conform field List.mem_cons_self)
    have stillFree : ∀ other ∈ rest, has next other.1 = false := by
      intro other member
      have before := free other (List.mem_cons_of_mem _ member)
      have different : other.1 ≠ field.1 := fun same => fresh (same ▸ List.mem_map_of_mem member)
      rw [← Bool.not_eq_true, marks, before]
      simp [different]
    obtain ⟨last, isLast, filled⟩ := ih onceLater (fun other member => proper other (List.mem_cons_of_mem _ member))
      (fun other member => conform other (List.mem_cons_of_mem _ member)) stillFree
    refine ⟨last, ?_, fun name => ?_⟩
    · rw [List.foldlM_cons, isTaken]
      exact isLast
    · rw [filled, marks, List.map_cons, List.mem_cons, or_and_right, or_assoc]

end Takes

-- An object that conforms is read if a draft that has all that is required can be finished.
theorem reads_object {notes : Notes} {fields : List (String × Schema)} {required names : List String}
    {start : σ} {take : σ → String → Json → Reading σ} {has : σ → String → Bool} {finish : σ → Reading α}
    {read : Json → Reading α} {want : String} (ordered : fields.Pairwise fun a b => a.1 < b.1)
    (takes : Takes (record notes fields required) names start take has) (needed : ∀ name ∈ required, name ∈ names)
    (objects : ∀ all, read (.object all) = Document.fields want start take (.object all) >>= finish)
    (finishes : ∀ draft, (∀ name ∈ required, has draft name = true) → ∃ value, finish draft = .ok value)
    {own : List (String × Json)} (proper : (Json.object own).Proper)
    (conforms : (record notes fields required).json.Conforms (.object own)) :
    ∃ value, read (.object own) = .ok value := by
  obtain ⟨_, ⟨⟩, present, conform⟩ := ((conforms_record ordered).mp conforms).resolve_right (by simp)
  obtain ⟨once, each⟩ := Json.proper_object.mp proper
  obtain ⟨last, isLast, filled⟩ := takes.run once each conform fun field _ => takes.empty field.1
  obtain ⟨value, finished⟩ := finishes last fun name isRequired =>
    (filled name).mpr (.inr ⟨present name isRequired, needed name isRequired⟩)
  refine ⟨value, ?_⟩
  rw [objects, fields_object, isLast]
  exact finished

theorem reads_of_objects {notes : Notes} {fields : List (String × Schema)} {required : List String}
    {read : Json → Reading α} (ordered : fields.Pairwise fun a b => a.1 < b.1) (plain : notes.nullable = false)
    (objects : ∀ {own}, (Json.object own).Proper → (record notes fields required).json.Conforms (.object own) →
      ∃ value, read (.object own) = .ok value) : (record notes fields required).Reads read := by
  intro value proper conforms
  obtain ⟨own, rfl, _⟩ := ((conforms_record ordered).mp conforms).resolve_right (by simp [plain])
  exact objects proper conforms

theorem reads_optional_of_objects {notes : Notes} {fields : List (String × Schema)} {required : List String}
    {read : Json → Reading α} (ordered : fields.Pairwise fun a b => a.1 < b.1)
    (objects : ∀ {own}, (Json.object own).Proper → (record notes fields required).json.Conforms (.object own) →
      ∃ value, read (.object own) = .ok value) : (record notes fields required).Reads (Document.optional read) := by
  intro value proper conforms
  rcases (conforms_record ordered).mp conforms with ⟨own, rfl, _⟩ | ⟨_, rfl⟩
  · obtain ⟨result, isRead⟩ := objects proper conforms
    exact ⟨some result, optional_object isRead⟩
  · exact ⟨none, rfl⟩

end Schema

namespace Role

def Draft.has (draft : Draft) : String → Bool
  | "id" => draft.id.isSome
  | "name" => draft.name.isSome
  | "description" => draft.description.isSome
  | "composite" => draft.composite.isSome
  | "clientRole" => draft.clientRole.isSome
  | "containerId" => draft.containerId.isSome
  | "attributes" => draft.attributes.isSome
  | _ => false

theorem Draft.takes : Schema.Takes schema Draft.names {} (Draft.take (δ := Json)) Draft.has where
  empty name := by
    unfold Draft.has
    split <;> rfl
  knows := Draft.knows
  known := by decide
  taken := by
    simp only [schema, Schema.fields, List.forall_mem_cons]
    refine ⟨
      Schema.taken_of_slot Draft.attributes (fun draft slot => { draft with attributes := slot })
        (Schema.reads_table rfl (Schema.reads_list rfl (Schema.reads_text rfl))) (fun _ _ => rfl) (fun _ => rfl) ?_,
      Schema.taken_of_slot Draft.clientRole (fun draft slot => { draft with clientRole := slot })
        (Schema.reads_flag rfl) (fun _ _ => rfl) (fun _ => rfl) ?_,
      Schema.taken_of_slot Draft.composite (fun draft slot => { draft with composite := slot })
        (Schema.reads_flag rfl) (fun _ _ => rfl) (fun _ => rfl) ?_,
      Schema.taken_of_slot Draft.containerId (fun draft slot => { draft with containerId := slot })
        (Schema.reads_optionalText _) (fun _ _ => rfl) (fun _ => rfl) ?_,
      Schema.taken_of_slot Draft.description (fun draft slot => { draft with description := slot })
        (Schema.reads_optionalText _) (fun _ _ => rfl) (fun _ => rfl) ?_,
      Schema.taken_of_slot Draft.id (fun draft slot => { draft with id := slot })
        (Schema.reads_text rfl) (fun _ _ => rfl) (fun _ => rfl) ?_,
      Schema.taken_of_slot Draft.name (fun draft slot => { draft with name := slot })
        (Schema.reads_text rfl) (fun _ _ => rfl) (fun _ => rfl) ?_, by simp⟩
    all_goals
      intro draft filled other
      unfold Draft.has
      split <;> simp_all

theorem schema_reads : schema.Reads (Role.read : Json → Reading Role) := by
  refine Schema.reads_of_objects (by decide) rfl
    (Schema.reads_object (by decide) Draft.takes (by decide) (fun _ => rfl) ?_)
  intro draft has
  obtain ⟨name, given⟩ := Option.isSome_iff_exists.mp (has "name" (by decide))
  simp [Draft.finish, required, given]

end Role

namespace Client

def Draft.has (draft : Draft) : String → Bool
  | "id" => draft.id.isSome
  | "clientId" => draft.clientId.isSome
  | "name" => draft.name.isSome
  | "secret" => draft.secret.isSome
  | "description" => draft.description.isSome
  | "enabled" => draft.enabled.isSome
  | "publicClient" => draft.publicClient.isSome
  | "rootUrl" => draft.rootUrl.isSome
  | "redirectUris" => draft.redirectUris.isSome
  | _ => false

theorem Draft.takes : Schema.Takes schema Draft.names {} (Draft.take (δ := Json)) Draft.has where
  empty name := by
    unfold Draft.has
    split <;> rfl
  knows := Draft.knows
  known := by decide
  taken := by
    simp only [schema, Schema.fields, List.forall_mem_cons]
    refine ⟨
      Schema.taken_of_slot Draft.clientId (fun draft slot => { draft with clientId := slot })
        (Schema.reads_text rfl) (fun _ _ => rfl) (fun _ => rfl) ?_,
      Schema.taken_of_slot Draft.description (fun draft slot => { draft with description := slot })
        (Schema.reads_optionalText _) (fun _ _ => rfl) (fun _ => rfl) ?_,
      Schema.taken_of_slot Draft.enabled (fun draft slot => { draft with enabled := slot })
        (Schema.reads_flag rfl) (fun _ _ => rfl) (fun _ => rfl) ?_,
      Schema.taken_of_slot Draft.id (fun draft slot => { draft with id := slot })
        (Schema.reads_text rfl) (fun _ _ => rfl) (fun _ => rfl) ?_,
      Schema.taken_of_slot Draft.name (fun draft slot => { draft with name := slot })
        (Schema.reads_optionalText _) (fun _ _ => rfl) (fun _ => rfl) ?_,
      Schema.taken_of_slot Draft.publicClient (fun draft slot => { draft with publicClient := slot })
        (Schema.reads_flag rfl) (fun _ _ => rfl) (fun _ => rfl) ?_,
      Schema.taken_of_slot Draft.redirectUris (fun draft slot => { draft with redirectUris := slot })
        (Schema.reads_list rfl (Schema.reads_text rfl)) (fun _ _ => rfl) (fun _ => rfl) ?_,
      Schema.taken_of_slot Draft.rootUrl (fun draft slot => { draft with rootUrl := slot })
        (Schema.reads_optionalText _) (fun _ _ => rfl) (fun _ => rfl) ?_,
      Schema.taken_of_slot Draft.secret (fun draft slot => { draft with secret := slot })
        (Schema.reads_optionalText _) (fun _ _ => rfl) (fun _ => rfl) ?_, by simp⟩
    all_goals
      intro draft filled other
      unfold Draft.has
      split <;> simp_all

theorem schema_reads : schema.Reads (Client.read : Json → Reading Client) := by
  refine Schema.reads_of_objects (by decide) rfl
    (Schema.reads_object (by decide) Draft.takes (by decide) (fun _ => rfl) ?_)
  intro draft has
  obtain ⟨clientId, given⟩ := Option.isSome_iff_exists.mp (has "clientId" (by decide))
  simp [Draft.finish, required, given]

end Client

namespace Spec

def Draft.has (draft : Draft) : String → Bool
  | "realm" => draft.realm.isSome
  | "client" => draft.client.isSome
  | "roles" => draft.roles.isSome
  | _ => false

theorem Draft.takes : Schema.Takes schema Draft.names {} (Draft.take (δ := Json)) Draft.has where
  empty name := by
    unfold Draft.has
    split <;> rfl
  knows := Draft.knows
  known := by decide
  taken := by
    simp only [schema, Schema.fields, List.forall_mem_cons]
    refine ⟨
      Schema.taken_of_slot Draft.client (fun draft slot => { draft with client := slot })
        Client.schema_reads (fun _ _ => rfl) (fun _ => rfl) ?_,
      Schema.taken_of_slot Draft.realm (fun draft slot => { draft with realm := slot })
        (Schema.reads_text rfl) (fun _ _ => rfl) (fun _ => rfl) ?_,
      Schema.taken_of_slot Draft.roles (fun draft slot => { draft with roles := slot })
        (Schema.reads_list rfl Role.schema_reads) (fun _ _ => rfl) (fun _ => rfl) ?_, by simp⟩
    all_goals
      intro draft filled other
      unfold Draft.has
      split <;> simp_all

theorem schema_reads : schema.Reads (Spec.read : Json → Reading Spec) := by
  refine Schema.reads_of_objects (by decide) rfl
    (Schema.reads_object (by decide) Draft.takes (by decide) (fun _ => rfl) ?_)
  intro draft has
  obtain ⟨realm, realmGiven⟩ := Option.isSome_iff_exists.mp (has "realm" (by decide))
  obtain ⟨client, clientGiven⟩ := Option.isSome_iff_exists.mp (has "client" (by decide))
  simp [Draft.finish, required, realmGiven, clientGiven]

end Spec

namespace Status

def Draft.has (draft : Draft) : String → Bool
  | "phase" => draft.phase.isSome
  | "message" => draft.message.isSome
  | "ready" => draft.ready.isSome
  | "secretName" => draft.secretName.isSome
  | _ => false

theorem reads_phase : (Schema.anyOf [Phase.schema, .null]).Reads (optional Phase.read) := by
  intro value _ conforms
  obtain ⟨option, isOption, conforms⟩ := Schema.conforms_anyOf.mp conforms
  simp only [List.mem_cons, List.not_mem_nil, or_false] at isOption
  rcases isOption with rfl | rfl
  · obtain ⟨word, isWord, rfl⟩ := Schema.conforms_choice.mp conforms
    obtain ⟨phase, _, rfl⟩ := List.mem_map.mp isWord
    exact ⟨some phase, optional_phase (some phase)⟩
  · rw [Schema.conforms_null.mp conforms]
    exact ⟨none, rfl⟩

theorem Draft.takes : Schema.Takes schema Draft.names {} (Draft.take (δ := Json)) Draft.has where
  empty name := by
    unfold Draft.has
    split <;> rfl
  knows := Draft.knows
  known := by decide
  taken := by
    simp only [schema, Schema.fields, List.forall_mem_cons]
    refine ⟨
      Schema.taken_of_slot Draft.message (fun draft slot => { draft with message := slot })
        (Schema.reads_optionalText _) (fun _ _ => rfl) (fun _ => rfl) ?_,
      Schema.taken_of_slot Draft.phase (fun draft slot => { draft with phase := slot })
        reads_phase (fun _ _ => rfl) (fun _ => rfl) ?_,
      Schema.taken_of_slot Draft.ready (fun draft slot => { draft with ready := slot })
        (Schema.reads_flag rfl) (fun _ _ => rfl) (fun _ => rfl) ?_,
      Schema.taken_of_slot Draft.secretName (fun draft slot => { draft with secretName := slot })
        (Schema.reads_optionalText _) (fun _ _ => rfl) (fun _ => rfl) ?_, by simp⟩
    all_goals
      intro draft filled other
      unfold Draft.has
      split <;> simp_all

-- A status may also be left empty.
theorem schema_reads : schema.Reads (optional (Status.read : Json → Reading Status)) := by
  refine Schema.reads_optional_of_objects (by decide)
    (Schema.reads_object (by decide) Draft.takes (by decide) read_object ?_)
  intro draft _
  exact ⟨draft.finish, rfl⟩

end Status
end RealmPlan
