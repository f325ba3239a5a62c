import RealmPlan.Document.Json
import RealmPlan.Proofs.Tables
import Mathlib.Data.List.Forall2

namespace RealmPlan

variable {α β σ : Type}

-- A reading that has succeeded so far goes on with its value.
@[simp] theorem Reading.ok_bind (value : α) (next : α → Reading β) :
    ((.ok value : Reading α) >>= next) = next value := rfl
@[simp] theorem Reading.map_ok (f : α → β) (value : α) : f <$> (.ok value : Reading α) = .ok (f value) := rfl
@[simp] theorem Reading.pure_eq (value : α) : (pure value : Reading α) = .ok value := rfl

-- An object with the fields of a written one that have the given names, in the same order. What other fields it has
-- besides, and where they stand, is left open.
inductive Json.Extends (names : List String) : (written document : Json) → Prop where
  | object {own all : List (String × Json)}
    (same : all.filter (fun field => field.1 ∈ names) = own.filter fun field => field.1 ∈ names) :
    Extends names (.object own) (.object all)

namespace Json.Extends
variable {names : List String}

theorem refl (own : List (String × Json)) : Extends names (.object own) (.object own) := .object rfl

theorem insert {written : Json} {before after : List (String × Json)} {name : String} (extra : Json)
    (unknown : name ∉ names) (extension : Extends names written (.object (before ++ after))) :
    Extends names written (.object (before ++ (name, extra) :: after)) := by
  cases extension with
  | object same =>
    refine .object ?_
    rw [← same, List.filter_append, List.filter_append, List.filter_cons_of_neg (by simpa using unknown)]

theorem given {written document : Json} (extension : Extends names written document) :
    ∃ all, document = .object all := by
  cases extension with
  | object => exact ⟨_, rfl⟩

end Json.Extends

-- A document out of `inner`, up to fields that nobody knows. What stands in such a document may be padded itself.
def Json.Padded (names : List String) (inner : Json → Prop) (document : Json) : Prop :=
  ∃ written, inner written ∧ Json.Extends names written document

namespace Json.Padded
variable {names : List String} {inner : Json → Prop}

theorem of_inner {own : List (String × Json)} (written : inner (.object own)) : Padded names inner (.object own) :=
  ⟨_, written, .refl own⟩

theorem insert {before after : List (String × Json)} {name : String} (extra : Json) (unknown : name ∉ names)
    (padded : Padded names inner (.object (before ++ after))) :
    Padded names inner (.object (before ++ (name, extra) :: after)) := by
  obtain ⟨written, isInner, extension⟩ := padded
  exact ⟨written, isInner, extension.insert extra unknown⟩

theorem given {document : Json} (padded : Padded names inner document) : ∃ all, document = .object all := by
  obtain ⟨_, _, extension⟩ := padded
  exact extension.given

end Json.Padded

-- A value is read from the document that it is written as, and from every document that is made of this one by
-- putting in fields that no such record has.
structure Recovered (names : List String) (written : Json → Prop) (read : Json → Reading α) (document : Json)
    (value : α) : Prop where
  back : read document = .ok value
  begins : written document
  grows : ∀ before after name extra, name ∉ names → written (.object (before ++ after)) →
    written (.object (before ++ (name, extra) :: after))
  padded : ∀ other, written other → read other = .ok value

namespace Document

@[simp] theorem string_text (value : String) : string (Json.text value) = (.ok value : Reading String) := rfl

@[simp] theorem flag_bool (value : Bool) : flag (Json.bool value) = (.ok value : Reading Bool) := rfl

theorem mapM_of_forall₂ {read : Json → Reading α} {documents : List Json} {values : List α}
    (reads : List.Forall₂ (fun value document => read document = .ok value) values documents) :
    documents.mapM read = .ok values := by
  induction reads with
  | nil => rfl
  | cons first _ ih =>
    rw [List.mapM_cons, first, ih]
    rfl

theorem list_of_forall₂ {read : Json → Reading α} {documents : List Json} {values : List α}
    (reads : List.Forall₂ (fun value document => read document = .ok value) values documents) :
    list read (.list documents) = .ok values :=
  mapM_of_forall₂ reads

@[simp] theorem strings_texts (values : List String) :
    strings (Json.texts values) = (.ok values : Reading (List String)) := by
  apply mapM_of_forall₂
  rw [List.forall₂_map_right_iff]
  exact List.forall₂_same.mpr fun _ _ => rfl

@[simp] theorem optional_text (value : Option String) :
    optional string (Json.optional .text value) = (.ok value : Reading (Option String)) := by
  cases value <;> rfl

-- The entries of a table are written in order, so reading them one after the other makes the same table again.
@[simp] theorem dict_strings (table : Dict (List String)) :
    dict strings (Json.object (table.entries.map fun (key, values) => (key, .texts values))) =
      (.ok table : Reading (Dict (List String))) := by
  have rows (entries : List (String × List String)) :
      (entries.map fun (key, values) => (key, Json.texts values)).mapM
        (fun (key, value) => do return (key, ← strings value)) = (.ok entries : Reading _) := by
    induction entries with
    | nil => rfl
    | cons entry rest ih =>
      rw [List.map_cons, List.mapM_cons, ih]
      simp
  show ((_ : Reading (List (String × List String))) >>= fun rows => pure (Dict.ofList rows)) = _
  rw [rows, Reading.ok_bind, Dict.ofList_entries, Reading.pure_eq]

theorem optional_object {read : Json → Reading α} {all : List (String × Json)} {value : α}
    (reads : read (.object all) = .ok value) : optional read (.object all) = .ok (some value) := by
  show ((some <$> read (.object all)) : Reading (Option α)) = _
  rw [reads, Reading.map_ok]

theorem optional_padded {read : Json → Reading α} {names : List String} {inner : Json → Prop} {document : Json}
    {value : α} (padded : Json.Padded names inner document) (reads : read document = .ok value) :
    optional read document = .ok (some value) := by
  obtain ⟨all, rfl⟩ := padded.given
  exact optional_object reads

theorem fields_object (want : String) (start : σ) (take : σ → String → Json → Reading σ)
    (all : List (String × Json)) :
    fields want start take (.object all) = all.foldlM (fun state field => take state field.1 field.2) start := rfl

-- A field under any other name leaves what is read as it is.
def Knows (names : List String) (take : σ → String → Json → Reading σ) : Prop :=
  ∀ state name value, name ∉ names → take state name value = .ok state

theorem foldlM_known {names : List String} {take : σ → String → Json → Reading σ} (knows : Knows names take)
    (start : σ) (all : List (String × Json)) :
    all.foldlM (fun state field => take state field.1 field.2) start =
      (all.filter fun field => field.1 ∈ names).foldlM (fun state field => take state field.1 field.2) start := by
  induction all generalizing start with
  | nil => rfl
  | cons field rest ih =>
    by_cases known : field.1 ∈ names
    · rw [List.filter_cons_of_pos (by simpa using known), List.foldlM_cons, List.foldlM_cons]
      exact congrArg _ (funext ih)
    · rw [List.filter_cons_of_neg (by simpa using known), List.foldlM_cons, knows start field.1 field.2 known]
      exact ih start

-- So what is read of an object is what its known fields say, whatever is made of them in the end.
theorem read_of_extends {read : Json → Reading α} {want : String} {start : σ} {names : List String}
    {take : σ → String → Json → Reading σ} {finish : σ → Reading α} {written document : Json}
    (objects : ∀ all, read (.object all) = fields want start take (.object all) >>= finish) (knows : Knows names take)
    (extension : Json.Extends names written document) : read document = read written := by
  cases extension with
  | object same =>
    rw [objects, objects, fields_object, fields_object, foldlM_known knows, same, ← foldlM_known knows]

-- A record is recovered if it is read from what it is written as and takes no notice of fields that it does not know.
theorem recovered_of_inner {read : Json → Reading α} {want : String} {start : σ} {names : List String}
    {take : σ → String → Json → Reading σ} {finish : σ → Reading α} {inner : Json → Prop}
    {own : List (String × Json)} {value : α}
    (objects : ∀ all, read (.object all) = fields want start take (.object all) >>= finish) (knows : Knows names take)
    (written : inner (.object own)) (reads : ∀ document, inner document → read document = .ok value) :
    Recovered names (Json.Padded names inner) read (.object own) value where
  back := reads _ written
  begins := .of_inner written
  grows _ _ _ extra unknown padded := padded.insert extra unknown
  padded other padded := by
    obtain ⟨document, isInner, extension⟩ := padded
    rw [read_of_extends objects knows extension]
    exact reads document isInner

end Document
end RealmPlan
