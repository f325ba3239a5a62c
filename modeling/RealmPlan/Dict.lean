namespace RealmPlan

-- A table of texts. Its entries stand in key order, by code point, which is also the order of the
-- keys' bytes; so two tables with the same look-ups are equal.
structure Dict (α : Type) where
  entries : List (String × α)
  ordered : entries.Pairwise fun a b => a.1 < b.1
deriving DecidableEq

namespace Dict
variable {α β : Type}

def insertEntry (key : String) (value : α) : List (String × α) → List (String × α)
  | [] => [(key, value)]
  | (k, v) :: rest =>
    if key < k then (key, value) :: (k, v) :: rest
    else if key = k then (key, value) :: rest
    else (k, v) :: insertEntry key value rest

theorem mem_insertEntry {key : String} {value : α} {entry : String × α} {entries : List (String × α)}
    (member : entry ∈ insertEntry key value entries) : entry = (key, value) ∨ entry ∈ entries := by
  induction entries with
  | nil => exact Or.inl (by simpa [insertEntry] using member)
  | cons head rest ih =>
    unfold insertEntry at member
    split at member
    · simpa using member
    · split at member
      · rcases List.mem_cons.mp member with same | old
        · exact Or.inl same
        · exact Or.inr (List.mem_cons_of_mem _ old)
      · rcases List.mem_cons.mp member with same | old
        · exact Or.inr (by simp [same])
        · exact (ih old).imp_right (List.mem_cons_of_mem _)

theorem insertEntry_ordered (key : String) (value : α) {entries : List (String × α)}
    (ordered : entries.Pairwise fun a b => a.1 < b.1) :
    (insertEntry key value entries).Pairwise fun a b => a.1 < b.1 := by
  induction entries with
  | nil => simp [insertEntry]
  | cons head rest ih =>
    obtain ⟨above, tail⟩ := List.pairwise_cons.mp ordered
    unfold insertEntry
    split
    · rename_i below
      refine List.pairwise_cons.mpr ⟨fun entry member => ?_, ordered⟩
      rcases List.mem_cons.mp member with rfl | old
      · exact below
      · exact String.lt_trans below (above entry old)
    · rename_i notBelow
      split
      · rename_i same
        subst same
        exact List.pairwise_cons.mpr ⟨above, tail⟩
      · rename_i different
        refine List.pairwise_cons.mpr ⟨fun entry member => ?_, ih tail⟩
        rcases mem_insertEntry member with rfl | old
        · exact Decidable.byContradiction fun notAbove =>
            different (String.le_antisymm (String.not_lt.mp notAbove) (String.not_lt.mp notBelow))
        · exact above entry old

def empty : Dict α := ⟨[], .nil⟩

instance : Inhabited (Dict α) := ⟨empty⟩

-- The newer value of a key replaces the older one.
def insert (table : Dict α) (key : String) (value : α) : Dict α :=
  ⟨insertEntry key value table.entries, insertEntry_ordered key value table.ordered⟩

def extend (table : Dict α) (entries : List (String × α)) : Dict α :=
  entries.foldl (fun table entry => table.insert entry.1 entry.2) table

def ofList (entries : List (String × α)) : Dict α := empty.extend entries

def get? (table : Dict α) (key : String) : Option α := table.entries.lookup key

def isEmpty (table : Dict α) : Bool := table.entries.isEmpty

theorem lookup_pair (key k : String) (v : α) (rest : List (String × α)) :
    ((k, v) :: rest).lookup key = if key = k then some v else rest.lookup key := by
  by_cases same : key = k
  · simp [same]
  · have different : (key == k) = false := by simpa using same
    rw [List.lookup_cons]
    simp [different, same]

theorem lookup_insertEntry (key other : String) (value : α) (entries : List (String × α)) :
    (insertEntry key value entries).lookup other =
      if other = key then some value else entries.lookup other := by
  induction entries with
  | nil => exact lookup_pair other key value []
  | cons head rest ih =>
    obtain ⟨k, v⟩ := head
    unfold insertEntry
    split
    · exact lookup_pair other key value _
    · split
      · rename_i same
        subst same
        simp only [lookup_pair]
        split <;> rfl
      · rename_i different
        simp only [lookup_pair, ih]
        by_cases old : other = k
        · have notKey : k ≠ key := fun same => different same.symm
          simp [old, notKey]
        · simp [old]

theorem get?_insert (table : Dict α) (key other : String) (value : α) :
    (table.insert key value).get? other = if other = key then some value else table.get? other :=
  lookup_insertEntry key other value table.entries

theorem get?_empty (key : String) : (empty : Dict α).get? key = none := rfl

end Dict
end RealmPlan
