import RealmPlan.Dict

namespace RealmPlan.Dict
variable {α : Type}

theorem lookup_self (entry : String × α) (rest : List (String × α)) :
    (entry :: rest).lookup entry.1 = some entry.2 := by
  rw [lookup_pair entry.1 entry.1 entry.2 rest, if_pos rfl]

theorem lookup_eq_none {entries : List (String × α)} {key : String} (absent : ∀ entry ∈ entries, entry.1 ≠ key) :
    entries.lookup key = none := by
  apply List.lookup_eq_none_iff.mpr
  intro entry member
  exact bne_iff_ne.mpr (absent entry member).symm

theorem exists_lookup {entries : List (String × α)} {key : String} (present : ∃ entry ∈ entries, entry.1 = key) :
    ∃ value, entries.lookup key = some value := by
  cases found : entries.lookup key with
  | some value => exact ⟨value, rfl⟩
  | none =>
    obtain ⟨entry, member, rfl⟩ := present
    have other := List.lookup_eq_none_iff.mp found entry member
    simp at other

-- In a list that is ordered by its keys, no key is in front of the first one.
theorem not_below_of_lookup {entry : String × α} {rest : List (String × α)} {key : String} {value : α}
    (ordered : (entry :: rest).Pairwise fun a b => a.1 < b.1) (found : (entry :: rest).lookup key = some value) :
    ¬ key < entry.1 := by
  intro below
  obtain ⟨above, _⟩ := List.pairwise_cons.mp ordered
  have absent : (entry :: rest).lookup key = none := by
    apply lookup_eq_none
    intro later member same
    rcases List.mem_cons.mp member with rfl | old
    · exact String.lt_irrefl _ (same ▸ below)
    · exact String.lt_irrefl _ (String.lt_trans below (same ▸ above later old))
  rw [absent] at found
  cases found

-- Head by head: each of the first keys is found on the other side, so neither is in front of the other.
theorem entries_eq_of_lookup {left right : List (String × α)} (leftOrdered : left.Pairwise fun a b => a.1 < b.1)
    (rightOrdered : right.Pairwise fun a b => a.1 < b.1) (same : ∀ key, left.lookup key = right.lookup key) :
    left = right := by
  induction left generalizing right with
  | nil =>
    cases right with
    | nil => rfl
    | cons other rest => cases (same other.1).trans (lookup_self other rest)
  | cons entry tail ih =>
    cases right with
    | nil => cases (lookup_self entry tail).symm.trans (same entry.1)
    | cons other rest =>
      have found := (same entry.1).symm.trans (lookup_self entry tail)
      have otherFound := (same other.1).trans (lookup_self other rest)
      have sameKey : entry.1 = other.1 :=
        String.le_antisymm (String.not_lt.mp (not_below_of_lookup leftOrdered otherFound))
          (String.not_lt.mp (not_below_of_lookup rightOrdered found))
      have sameValue : entry.2 = other.2 := by
        rw [sameKey, lookup_self] at found
        exact (Option.some.inj found).symm
      obtain ⟨above, tailOrdered⟩ := List.pairwise_cons.mp leftOrdered
      obtain ⟨otherAbove, restOrdered⟩ := List.pairwise_cons.mp rightOrdered
      have sameTail : tail = rest := by
        apply ih tailOrdered restOrdered
        intro key
        by_cases first : key = other.1
        · have noneLeft : tail.lookup key = none :=
            lookup_eq_none fun later member => first ▸ sameKey ▸ (String.ne_of_lt (above later member)).symm
          have noneRight : rest.lookup key = none :=
            lookup_eq_none fun later member => first ▸ (String.ne_of_lt (otherAbove later member)).symm
          rw [noneLeft, noneRight]
        · have later := same key
          rwa [lookup_pair key entry.1 entry.2 tail, lookup_pair key other.1 other.2 rest, sameKey, if_neg first,
            if_neg first] at later
      rw [Prod.ext sameKey sameValue, sameTail]

theorem eq_of_entries {a b : Dict α} (same : a.entries = b.entries) : a = b := by
  cases a
  cases b
  cases same
  rfl

theorem ext_get? {a b : Dict α} (same : ∀ key, a.get? key = b.get? key) : a = b :=
  eq_of_entries (entries_eq_of_lookup a.ordered b.ordered same)

@[simp] theorem extend_nil (table : Dict α) : table.extend [] = table := rfl

@[simp] theorem extend_cons (table : Dict α) (entry : String × α) (entries : List (String × α)) :
    table.extend (entry :: entries) = (table.insert entry.1 entry.2).extend entries := rfl

-- Of several values of one key the last one stays, and a key that none is given for keeps the value that it had.
theorem get?_extend (table : Dict α) (entries : List (String × α)) (key : String) :
    (table.extend entries).get? key = (entries.reverse.lookup key).or (table.get? key) := by
  induction entries generalizing table with
  | nil => rfl
  | cons entry rest ih =>
    have single : (if key = entry.1 then some entry.2 else table.get? key) =
        ([entry].lookup key).or (table.get? key) := by
      rw [lookup_pair key entry.1 entry.2 []]
      split <;> rfl
    rw [extend_cons, ih, get?_insert, single, List.reverse_cons, List.lookup_append, Option.or_assoc]

theorem get?_extend_of_absent (table : Dict α) {entries : List (String × α)} {key : String}
    (absent : ∀ entry ∈ entries, entry.1 ≠ key) : (table.extend entries).get? key = table.get? key := by
  have missing : entries.reverse.lookup key = none :=
    lookup_eq_none fun entry member => absent entry (List.mem_reverse.mp member)
  rw [get?_extend, missing, Option.none_or]

theorem get?_extend_of_present (table other : Dict α) {entries : List (String × α)} {key : String}
    (present : ∃ entry ∈ entries, entry.1 = key) :
    (table.extend entries).get? key = (other.extend entries).get? key := by
  obtain ⟨entry, member, same⟩ := present
  obtain ⟨value, found⟩ := exists_lookup ⟨entry, List.mem_reverse.mpr member, same⟩
  rw [get?_extend, get?_extend, found, Option.some_or, Option.some_or]

-- What is overwritten anyway leaves no trace.
theorem extend_extend (table : Dict α) {older newer : List (String × α)}
    (covered : ∀ entry ∈ older, ∃ other ∈ newer, other.1 = entry.1) :
    (table.extend older).extend newer = table.extend newer := by
  apply ext_get?
  intro key
  by_cases overwritten : ∃ other ∈ newer, other.1 = key
  · exact get?_extend_of_present _ _ overwritten
  · have absent : ∀ other ∈ newer, other.1 ≠ key := fun other member same => overwritten ⟨other, member, same⟩
    have untouched : ∀ entry ∈ older, entry.1 ≠ key := by
      intro entry member same
      obtain ⟨other, later, sameKey⟩ := covered entry member
      exact absent other later (sameKey.trans same)
    rw [get?_extend_of_absent _ absent, get?_extend_of_absent _ absent, get?_extend_of_absent _ untouched]

-- Entries that stand in order are taken over as they stand.
theorem insertEntry_of_below {entries : List (String × α)} {key : String} (value : α)
    (below : ∀ entry ∈ entries, entry.1 < key) : insertEntry key value entries = entries ++ [(key, value)] := by
  induction entries with
  | nil => rfl
  | cons entry rest ih =>
    have before := below entry List.mem_cons_self
    have later := ih fun other member => below other (List.mem_cons_of_mem _ member)
    have notAfter : ¬ key < entry.1 := fun after => String.lt_irrefl _ (String.lt_trans before after)
    unfold insertEntry
    rw [if_neg notAfter, if_neg (String.ne_of_lt before).symm, later, List.cons_append]

theorem extend_of_ordered (table : Dict α) {entries : List (String × α)}
    (ordered : (table.entries ++ entries).Pairwise fun a b => a.1 < b.1) :
    (table.extend entries).entries = table.entries ++ entries := by
  induction entries generalizing table with
  | nil => rw [extend_nil, List.append_nil]
  | cons entry rest ih =>
    have below : ∀ old ∈ table.entries, old.1 < entry.1 := by
      intro old member
      exact (List.pairwise_append.mp ordered).2.2 old member entry List.mem_cons_self
    have inserted : (table.insert entry.1 entry.2).entries = table.entries ++ [entry] :=
      insertEntry_of_below entry.2 below
    rw [extend_cons, ih _ (by rwa [inserted, List.append_assoc]), inserted, List.append_assoc, List.singleton_append]

theorem ofList_entries (table : Dict α) : ofList table.entries = table :=
  eq_of_entries (extend_of_ordered empty table.ordered)

end RealmPlan.Dict
