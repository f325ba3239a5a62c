import RealmPlan.Schema
import RealmPlan.Proofs.Tables

namespace RealmPlan

namespace Json

-- As schemas call it. None of ours speaks of numbers.
@[simp] def typeName : Json → String
  | .null => "null"
  | .bool _ => "boolean"
  | .int _ => "integer"
  | .float _ => "number"
  | .text _ => "string"
  | .list _ => "array"
  | .object _ => "object"

-- What a schema says about a field: what it says about this name, or else about all others.
def ofField? (schema : Json) (name : String) : Option Json :=
  ((schema.get? "properties").bind (get? name)).or (schema.get? "additionalProperties")

attribute [local simp] get? ofField? Dict.lookup_pair

theorem sizeOf_get? {value part : Json} {name : String} (found : value.get? name = some part) :
    sizeOf part < sizeOf value := by
  cases value with
  | object fields =>
    obtain ⟨before, after, rfl, _⟩ := List.lookup_eq_some_iff.mp found
    have inside : sizeOf (name, part) < sizeOf (before ++ (name, part) :: after) :=
      List.sizeOf_lt_of_mem (List.mem_append_right _ List.mem_cons_self)
    simp only [Prod.mk.sizeOf_spec, object.sizeOf_spec] at inside ⊢
    omega
  | _ => cases found

theorem sizeOf_ofField? {schema inner : Json} {name : String} (found : schema.ofField? name = some inner) :
    sizeOf inner < sizeOf schema := by
  rcases Option.or_eq_some_iff.mp found with known | ⟨_, other⟩
  · obtain ⟨properties, said, isInner⟩ := Option.bind_eq_some_iff.mp known
    exact Nat.lt_trans (sizeOf_get? isInner) (sizeOf_get? said)
  · exact sizeOf_get? other

theorem sizeOf_option {schema option : Json} {options : List Json} (said : schema.get? "anyOf" = some (.list options))
    (member : option ∈ options) : sizeOf option < sizeOf schema := by
  have inside := List.sizeOf_lt_of_mem member
  have outside := sizeOf_get? said
  rw [list.sizeOf_spec] at outside
  omega

-- A schema is read keyword by keyword, and what it does not say is not asked for. So a description or a default says
-- nothing about a value, and a field that is not spoken of may hold anything.
def Conforms (schema value : Json) : Prop :=
  (∀ name, schema.get? "type" = some (.text name) →
    value.typeName = name ∨ schema.get? "nullable" = some (.bool true) ∧ value = .null) ∧
  (∀ words, schema.get? "enum" = some (.list words) → value ∈ words) ∧
  (∀ own, value = .object own →
    (∀ names, schema.get? "required" = some (.list names) → ∀ name, .text name ∈ names → name ∈ own.map Prod.fst) ∧
    ∀ field ∈ own, ∀ inner, schema.ofField? field.1 = some inner → Conforms inner field.2) ∧
  (∀ all, value = .list all → ∀ item ∈ all, ∀ inner, schema.get? "items" = some inner → Conforms inner item) ∧
  ∀ options, schema.get? "anyOf" = some (.list options) → ∃ option, ∃ (_ : option ∈ options), Conforms option value
termination_by sizeOf schema
decreasing_by
  · exact sizeOf_ofField? ‹_›
  · exact sizeOf_get? ‹_›
  · exact sizeOf_option ‹_› ‹_›

-- Below, the definition is opened here only.
theorem conforms_iff {schema value : Json} : schema.Conforms value ↔
    (∀ name, schema.get? "type" = some (.text name) →
      value.typeName = name ∨ schema.get? "nullable" = some (.bool true) ∧ value = .null) ∧
    (∀ words, schema.get? "enum" = some (.list words) → value ∈ words) ∧
    (∀ own, value = .object own →
      (∀ names, schema.get? "required" = some (.list names) → ∀ name, .text name ∈ names → name ∈ own.map Prod.fst) ∧
      ∀ field ∈ own, ∀ inner, schema.ofField? field.1 = some inner → inner.Conforms field.2) ∧
    (∀ all, value = .list all → ∀ item ∈ all, ∀ inner, schema.get? "items" = some inner → inner.Conforms item) ∧
    ∀ options, schema.get? "anyOf" = some (.list options) → ∃ option ∈ options, option.Conforms value := by
  rw [Conforms]
  simp only [exists_prop]

theorem conforms_nothing {value : Json} : (object []).Conforms value := by
  rw [conforms_iff]
  simp

theorem conforms_enum {words : List Json} {value : Json} :
    (object [("enum", .list words)]).Conforms value ↔ value ∈ words := by
  rw [conforms_iff]
  simp

theorem conforms_items {inner value : Json} :
    (object [("items", inner)]).Conforms value ↔ ∀ all, value = .list all → ∀ item ∈ all, inner.Conforms item := by
  rw [conforms_iff]
  simp

theorem conforms_additional {inner value : Json} :
    (object [("additionalProperties", inner)]).Conforms value ↔
      ∀ own, value = .object own → ∀ field ∈ own, inner.Conforms field.2 := by
  rw [conforms_iff]
  simp

theorem get?_ofEntries (entries : List (String × Json)) (name : String) :
    (ofEntries entries).get? name = entries.reverse.lookup name := by
  show (Dict.empty.extend entries).get? name = _
  rw [Dict.get?_extend, Dict.get?_empty, Option.or_none]

theorem ofEntries_of_ordered {entries : List (String × Json)} (ordered : entries.Pairwise fun a b => a.1 < b.1) :
    ofEntries entries = .object entries :=
  congrArg object (Dict.extend_of_ordered Dict.empty ordered)

theorem lookup_field? {α : Type} (key : String) (write : α → Json) (value : Option α) (name : String) :
    (field? key write value).reverse.lookup name = if name = key then value.map write else none := by
  cases value <;> simp [field?]

end Json

namespace Schema
open Json

theorem lookup_unless (left : Bool) (key : String) (value : Json) (name : String) :
    (if left = true then [] else [(key, value)]).reverse.lookup name =
      if name = key ∧ left = false then some value else none := by
  cases left <;> simp [Dict.lookup_pair]

theorem get?_typed (type : String) (notes : Notes) (more : List (String × Json)) (name : String) :
    (typed type notes more).get? name = (more.reverse.lookup name).or
      ((if name = "nullable" ∧ notes.nullable = true then some (.bool true) else none).or
        ((if name = "description" then notes.description.map .text else none).or
          ((if name = "default" then notes.default.map id else none).or
            (if name = "type" then some (.text type) else none)))) := by
  have nullable : (if notes.nullable then [("nullable", Json.bool true)] else []).reverse.lookup name =
      if name = "nullable" ∧ notes.nullable = true then some (.bool true) else none := by
    cases notes.nullable <;> simp [Dict.lookup_pair]
  have first : [("type", Json.text type)].lookup name = if name = "type" then some (.text type) else none :=
    Dict.lookup_pair name "type" (Json.text type) []
  simp only [typed, get?_ofEntries, Notes.json, List.reverse_append, List.reverse_cons, List.lookup_append,
    lookup_field?, nullable, first, Option.or_assoc]

-- What stands besides the type and the notes is asked for besides the type.
theorem conforms_typed {type : String} {notes : Notes} {more : List (String × Json)} {value : Json}
    (untyped : more.reverse.lookup "type" = none) (unnoted : more.reverse.lookup "nullable" = none) :
    (typed type notes more).Conforms value ↔
      (value.typeName = type ∨ notes.nullable = true ∧ value = .null) ∧ (object more.reverse).Conforms value := by
  have typeSaid : (typed type notes more).get? "type" = some (.text type) := by
    simp [get?_typed, untyped]
  have nullSaid : (typed type notes more).get? "nullable" = some (.bool true) ↔ notes.nullable = true := by
    simp [get?_typed, unnoted]
  have typeUnsaid : (object more.reverse).get? "type" = none := untyped
  have others (name : String) (other : name ∉ ["type", "nullable", "description", "default"]) :
      (typed type notes more).get? name = (object more.reverse).get? name := by
    simp only [List.mem_cons, List.not_mem_nil, or_false, not_or] at other
    simp only [get?_typed, other, false_and, if_false, Option.or_none]
    rfl
  have inner (name : String) : (typed type notes more).ofField? name = (object more.reverse).ofField? name := by
    rw [ofField?, ofField?, others "properties" (by decide), others "additionalProperties" (by decide)]
  rw [conforms_iff, conforms_iff, typeSaid, nullSaid, typeUnsaid, others "enum" (by decide),
    others "required" (by decide), others "items" (by decide), others "anyOf" (by decide)]
  simp only [inner, Option.some.injEq, Json.text.injEq, forall_eq', reduceCtorEq, false_implies, implies_true, true_and]

theorem conforms_text {notes : Notes} {value : Json} :
    (text notes).json.Conforms value ↔ (∃ s, value = .text s) ∨ notes.nullable = true ∧ value = .null := by
  show (typed "string" notes []).Conforms value ↔ _
  rw [conforms_typed rfl rfl, List.reverse_nil, and_iff_left conforms_nothing]
  cases value <;> simp

theorem conforms_flag {notes : Notes} {value : Json} :
    (flag notes).json.Conforms value ↔ (∃ b, value = .bool b) ∨ notes.nullable = true ∧ value = .null := by
  show (typed "boolean" notes []).Conforms value ↔ _
  rw [conforms_typed rfl rfl, List.reverse_nil, and_iff_left conforms_nothing]
  cases value <;> simp

-- Null is among the words of no choice, so that it is of no use there to be nullable.
theorem conforms_choice {notes : Notes} {words : List String} {value : Json} :
    (choice notes words).json.Conforms value ↔ ∃ word ∈ words, value = .text word := by
  show (typed "string" notes [("enum", .texts words)]).Conforms value ↔ _
  rw [conforms_typed rfl rfl, List.reverse_singleton, texts, conforms_enum]
  cases value <;> simp

theorem conforms_list {notes : Notes} {items : Schema} {value : Json} :
    (list notes items).json.Conforms value ↔
      (∃ all, value = .list all ∧ ∀ item ∈ all, items.json.Conforms item) ∨ notes.nullable = true ∧ value = .null := by
  show (typed "array" notes [("items", items.json)]).Conforms value ↔ _
  rw [conforms_typed rfl rfl, List.reverse_singleton, conforms_items]
  cases value <;> simp

theorem conforms_table {notes : Notes} {values : Schema} {value : Json} :
    (table notes values).json.Conforms value ↔
      (∃ own, value = .object own ∧ ∀ field ∈ own, values.json.Conforms field.2) ∨
        notes.nullable = true ∧ value = .null := by
  show (typed "object" notes [("additionalProperties", values.json)]).Conforms value ↔ _
  rw [conforms_typed rfl rfl, List.reverse_singleton, conforms_additional]
  cases value <;> simp

theorem conforms_null {value : Json} : null.json.Conforms value ↔ value = .null := by
  show (object [("enum", .list [.null]), ("nullable", .bool true)]).Conforms value ↔ _
  rw [conforms_iff]
  simp [get?, ofField?, Dict.lookup_pair]

theorem jsonAll_eq (options : List Schema) : jsonAll options = options.map json := by
  induction options with
  | nil => rfl
  | cons option rest ih => exact congrArg (List.cons option.json) ih

theorem conforms_anyOf {options : List Schema} {value : Json} :
    (anyOf options).json.Conforms value ↔ ∃ option ∈ options, option.json.Conforms value := by
  show (object [("anyOf", .list (jsonAll options))]).Conforms value ↔ _
  rw [conforms_iff, jsonAll_eq]
  simp only [get?, ofField?, Dict.lookup_pair]
  constructor
  · rintro ⟨-, -, -, -, offered⟩
    obtain ⟨_, member, conforms⟩ := offered _ rfl
    obtain ⟨option, isOption, rfl⟩ := List.mem_map.mp member
    exact ⟨option, isOption, conforms⟩
  · rintro ⟨option, isOption, conforms⟩
    have offered : option.json ∈ options.map json := List.mem_map_of_mem isOption
    refine ⟨by simp, by simp, by simp, by simp, ?_⟩
    rintro _ ⟨⟩
    exact ⟨option.json, offered, conforms⟩

theorem jsonFields_eq (fields : List (String × Schema)) :
    jsonFields fields = fields.map fun field => (field.1, field.2.json) := by
  induction fields with
  | nil => rfl
  | cons field rest ih => exact congrArg (List.cons (field.1, field.2.json)) ih

theorem lookup_jsonFields (fields : List (String × Schema)) (name : String) :
    (jsonFields fields).lookup name = (fields.lookup name).map json := by
  induction fields with
  | nil => rfl
  | cons field rest ih =>
    show ((field.1, field.2.json) :: jsonFields rest).lookup name = _
    rw [Dict.lookup_pair, Dict.lookup_pair, ih]
    split <;> rfl

-- The properties are written in order, so each is found where it is looked for.
theorem get?_properties {fields : List (String × Schema)} (ordered : fields.Pairwise fun a b => a.1 < b.1)
    (name : String) : (ofEntries (jsonFields fields)).get? name = (fields.lookup name).map json := by
  have written : (jsonFields fields).Pairwise fun a b => a.1 < b.1 := by
    rw [jsonFields_eq]
    exact List.pairwise_map.mpr ordered
  rw [ofEntries_of_ordered written]
  exact lookup_jsonFields fields name

-- What a record's schema says besides its type and its notes.
def ofRecord (fields : List (String × Schema)) (required : List String) : List (String × Json) :=
  (if fields.isEmpty then [] else [("properties", .ofEntries (jsonFields fields))]) ++
    (if required.isEmpty then [] else [("required", .texts required)])

theorem lookup_ofRecord (fields : List (String × Schema)) (required : List String) (name : String) :
    (ofRecord fields required).reverse.lookup name =
      (if name = "required" ∧ required.isEmpty = false then some (texts required) else none).or
        (if name = "properties" ∧ fields.isEmpty = false then some (ofEntries (jsonFields fields)) else none) := by
  rw [ofRecord, List.reverse_append, List.lookup_append, lookup_unless, lookup_unless]

theorem ofField?_ofRecord {fields : List (String × Schema)} (ordered : fields.Pairwise fun a b => a.1 < b.1)
    (required : List String) (name : String) :
    (object (ofRecord fields required).reverse).ofField? name = (fields.lookup name).map json := by
  simp only [ofField?, get?, lookup_ofRecord]
  cases fields with
  | nil => simp
  | cons field rest => simp [get?_properties ordered]

theorem conforms_ofRecord {fields : List (String × Schema)} {required : List String} {value : Json}
    (ordered : fields.Pairwise fun a b => a.1 < b.1) :
    (object (ofRecord fields required).reverse).Conforms value ↔ ∀ own, value = .object own →
      (∀ name ∈ required, name ∈ own.map Prod.fst) ∧
        ∀ field ∈ own, ∀ inner, fields.lookup field.1 = some inner → inner.json.Conforms field.2 := by
  rw [conforms_iff]
  simp only [ofField?_ofRecord ordered, get?, lookup_ofRecord]
  cases required <;> simp [texts]

theorem conforms_record {notes : Notes} {fields : List (String × Schema)} {required : List String} {value : Json}
    (ordered : fields.Pairwise fun a b => a.1 < b.1) :
    (record notes fields required).json.Conforms value ↔
      (∃ own, value = .object own ∧ (∀ name ∈ required, name ∈ own.map Prod.fst) ∧
        ∀ field ∈ own, ∀ inner, fields.lookup field.1 = some inner → inner.json.Conforms field.2) ∨
      notes.nullable = true ∧ value = .null := by
  have untyped : (ofRecord fields required).reverse.lookup "type" = none := by
    rw [lookup_ofRecord, if_neg (by simp), if_neg (by simp), Option.or_none]
  have unnoted : (ofRecord fields required).reverse.lookup "nullable" = none := by
    rw [lookup_ofRecord, if_neg (by simp), if_neg (by simp), Option.or_none]
  have split : (record notes fields required).json = typed "object" notes (ofRecord fields required) := rfl
  rw [split, conforms_typed untyped unnoted, conforms_ofRecord ordered]
  cases value <;> simp

end Schema
end RealmPlan
