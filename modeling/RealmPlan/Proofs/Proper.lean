import RealmPlan.Json.Reader
import RealmPlan.Proofs.Tables

namespace RealmPlan

namespace Dict
variable {α : Type}

theorem names_nodup (dict : Dict α) : (dict.entries.map Prod.fst).Nodup :=
  List.pairwise_map.mpr (dict.ordered.imp String.ne_of_lt)

theorem mem_extend {table : Dict α} {entries : List (String × α)} {entry : String × α}
    (member : entry ∈ (table.extend entries).entries) : entry ∈ table.entries ∨ entry ∈ entries := by
  induction entries generalizing table with
  | nil => exact .inl member
  | cons first rest ih =>
    rcases ih member with earlier | later
    · rcases mem_insertEntry earlier with rfl | old
      · exact .inr List.mem_cons_self
      · exact .inl old
    · exact .inr (List.mem_cons_of_mem _ later)
end Dict

namespace Json

-- A value whose objects, at any depth, name each of their fields once.
inductive Proper : Json → Prop
  | null : Proper .null
  | bool {value : Bool} : Proper (.bool value)
  | int {value : Int} : Proper (.int value)
  | float {value : Binary64} : Proper (.float value)
  | text {value : String} : Proper (.text value)
  | list {items : List Json} (each : ∀ item ∈ items, Proper item) : Proper (.list items)
  | object {fields : List (String × Json)} (once : (fields.map Prod.fst).Nodup)
      (each : ∀ field ∈ fields, Proper field.2) : Proper (.object fields)

attribute [simp] Proper.null Proper.bool Proper.int Proper.float Proper.text

@[simp] theorem proper_list {items : List Json} : (list items).Proper ↔ ∀ item ∈ items, item.Proper := by
  constructor
  · intro proper
    cases proper with
    | list each => exact each
  · exact .list

@[simp] theorem proper_object {fields : List (String × Json)} :
    (object fields).Proper ↔ (fields.map Prod.fst).Nodup ∧ ∀ field ∈ fields, field.2.Proper := by
  constructor
  · intro proper
    cases proper with
    | object once each => exact ⟨once, each⟩
  · intro parts
    exact .object parts.1 parts.2

theorem proper_texts (values : List String) : (texts values).Proper := by
  simp [texts]

theorem proper_optional {α : Type} {write : α → Json} (proper : ∀ value, (write value).Proper) (value : Option α) :
    (optional write value).Proper := by
  cases value with
  | none => exact .null
  | some value => exact proper value

theorem proper_dict {α : Type} {write : α → Json} (proper : ∀ value, (write value).Proper) (dict : Dict α) :
    (object (dict.entries.map fun (key, value) => (key, write value))).Proper := by
  refine .object ?_ fun field member => ?_
  · rw [List.map_map]
    exact dict.names_nodup
  · obtain ⟨entry, _, rfl⟩ := List.mem_map.mp member
    exact proper entry.2

theorem proper_ofEntries {entries : List (String × Json)} (each : ∀ entry ∈ entries, entry.2.Proper) :
    (ofEntries entries).Proper := by
  refine .object (Dict.names_nodup _) fun field member => ?_
  exact each field ((Dict.mem_extend member).resolve_left List.not_mem_nil)

theorem proper_number? {negative : Bool} {cs rest : List Char} {value : Json}
    (isRead : number? negative cs = some (value, rest)) : value.Proper := by
  simp only [number?] at isRead
  split at isRead
  · cases isRead
  · cases isRead
  · simp only [Option.bind_eq_bind, Option.bind_eq_some_iff] at isRead
    obtain ⟨_, _, _, _, isRead⟩ := isRead
    split at isRead
    · cases isRead
      exact .int
    · split at isRead
      · cases isRead
        exact .int
      · obtain ⟨_, isFloat, isRead⟩ := Option.bind_eq_some_iff.mp isRead
        cases isRead
        obtain ⟨_, _, rfl⟩ := Option.map_eq_some_iff.mp isFloat
        exact .float

theorem proper_word? {word : String} {spelled value : Json} {cs rest : List Char} (proper : spelled.Proper)
    (isRead : word? word spelled cs = some (value, rest)) : value.Proper := by
  unfold word? at isRead
  split at isRead
  · cases isRead
    exact proper
  · cases isRead

theorem proper_value? {fuel : Nat} {cs rest : List Char} {value : Json}
    (items : ∀ cs items rest, items? fuel cs = some (items, rest) → ∀ item ∈ items, item.Proper)
    (entries : ∀ cs entries rest, entries? fuel cs = some (entries, rest) → ∀ entry ∈ entries, entry.2.Proper)
    (isRead : value? (fuel + 1) cs = some (value, rest)) : value.Proper := by
  unfold value? at isRead
  split at isRead
  · exact proper_word? .null isRead
  · exact proper_word? .bool isRead
  · exact proper_word? .bool isRead
  · obtain ⟨_, _, same⟩ := Option.map_eq_some_iff.mp isRead
    cases same
    exact .text
  · exact proper_number? isRead
  · split at isRead
    · cases isRead
      simp
    · obtain ⟨_, isItems, same⟩ := Option.map_eq_some_iff.mp isRead
      cases same
      exact .list (items _ _ _ isItems)
  · split at isRead
    · cases isRead
      simp
    · obtain ⟨_, isEntries, same⟩ := Option.map_eq_some_iff.mp isRead
      cases same
      exact proper_ofEntries (entries _ _ _ isEntries)
  · exact proper_number? isRead

theorem proper_items? {fuel : Nat} {cs rest : List Char} {all : List Json}
    (values : ∀ cs value rest, value? fuel cs = some (value, rest) → value.Proper)
    (items : ∀ cs items rest, items? fuel cs = some (items, rest) → ∀ item ∈ items, item.Proper)
    (isRead : items? (fuel + 1) cs = some (all, rest)) : ∀ item ∈ all, item.Proper := by
  unfold items? at isRead
  obtain ⟨⟨item, afterItem⟩, isItem, isRead⟩ := Option.bind_eq_some_iff.mp isRead
  have first := values _ _ _ isItem
  dsimp only at isRead
  split at isRead
  · obtain ⟨⟨others, _⟩, areOthers, same⟩ := Option.bind_eq_some_iff.mp isRead
    cases same
    exact List.forall_mem_cons.mpr ⟨first, items _ _ _ areOthers⟩
  · cases isRead
    simpa using first
  · cases isRead

theorem proper_entries? {fuel : Nat} {cs rest : List Char} {all : List (String × Json)}
    (values : ∀ cs value rest, value? fuel cs = some (value, rest) → value.Proper)
    (entries : ∀ cs entries rest, entries? fuel cs = some (entries, rest) → ∀ entry ∈ entries, entry.2.Proper)
    (isRead : entries? (fuel + 1) cs = some (all, rest)) : ∀ entry ∈ all, entry.2.Proper := by
  unfold entries? at isRead
  split at isRead
  case h_2 => cases isRead
  obtain ⟨⟨name, afterName⟩, _, isRead⟩ := Option.bind_eq_some_iff.mp isRead
  dsimp only at isRead
  split at isRead
  case h_2 => cases isRead
  obtain ⟨⟨value, afterValue⟩, isValue, isRead⟩ := Option.bind_eq_some_iff.mp isRead
  have first := values _ _ _ isValue
  dsimp only at isRead
  split at isRead
  · obtain ⟨⟨others, _⟩, areOthers, same⟩ := Option.bind_eq_some_iff.mp isRead
    cases same
    exact List.forall_mem_cons.mpr ⟨first, entries _ _ _ areOthers⟩
  · cases isRead
    simpa using first
  · cases isRead

-- All three readers at once, by the fuel that they share.
theorem proper_read (fuel : Nat) :
    (∀ cs value rest, value? fuel cs = some (value, rest) → value.Proper) ∧
    (∀ cs items rest, items? fuel cs = some (items, rest) → ∀ item ∈ items, item.Proper) ∧
    ∀ cs entries rest, entries? fuel cs = some (entries, rest) → ∀ entry ∈ entries, entry.2.Proper := by
  induction fuel with
  | zero => simp [value?, items?, entries?]
  | succ fuel ih =>
    obtain ⟨values, items, entries⟩ := ih
    exact ⟨fun _ _ _ => proper_value? items entries, fun _ _ _ => proper_items? values items,
      fun _ _ _ => proper_entries? values entries⟩

theorem proper_of_parse? {s : String} {value : Json} (isRead : parse? s = some value) : value.Proper := by
  obtain ⟨⟨read, rest⟩, found, ended⟩ := Option.bind_eq_some_iff.mp isRead
  have proper := (proper_read _).1 _ _ _ found
  dsimp only at ended
  split at ended
  · cases ended
    exact proper
  · cases ended

end Json
end RealmPlan
