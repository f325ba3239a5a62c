import RealmPlan.Role
import Mathlib.Data.List.Nodup

namespace RealmPlan.Role

theorem hasId_iff {role : Role} : role.hasId = true ↔ role.id ≠ "" := by
  simp [hasId]

theorem hasId_eq_false_iff {role : Role} : role.hasId = false ↔ role.id = "" := by
  simp [hasId]

theorem hasId_of_same_id {a b : Role} (same : a.id = b.id) (identified : b.hasId) : a.hasId := by
  rw [hasId_iff] at identified ⊢
  rwa [same]

-- A role without its id: its name and all that is passed through with it.
def bare (role : Role) : Role := { role with id := "" }

@[simp] theorem bare_name (role : Role) : role.bare.name = role.name := rfl

-- A role as the realm keeps it, whose id is its own and not the declared one.
def under (id : String) (role : Role) : Role := { role with id }

@[simp] theorem under_id (id : String) (role : Role) : (role.under id).id = id := rfl
@[simp] theorem under_name (id : String) (role : Role) : (role.under id).name = role.name := rfl
@[simp] theorem under_bare (id : String) (role : Role) : (role.under id).bare = role.bare := rfl
@[simp] theorem under_self (role : Role) : role.under role.id = role := rfl

-- Whom a request is about: its id tells, and without one its name.
def denotes (role stored : Role) : Bool :=
  if role.hasId then role.id == stored.id else role.name == stored.name

theorem eq_of_bare {a b : Role} (same : a.id = b.id) (bare : a.bare = b.bare) : a = b := by
  cases a
  cases b
  simp_all [Role.bare]

theorem name_of_bare {a b : Role} (same : a.bare = b.bare) : a.name = b.name :=
  congrArg (·.name) same

theorem bare_names (roles : List Role) : (roles.map bare).map (·.name) = roles.map (·.name) := by
  simp

theorem exists_of_bare {left right : List Role} (same : left.map bare = right.map bare) {a : Role}
    (member : a ∈ left) : ∃ b ∈ right, a.bare = b.bare := by
  have bareMember := List.mem_map_of_mem (f := bare) member
  rw [same] at bareMember
  obtain ⟨b, found, equal⟩ := List.mem_map.mp bareMember
  exact ⟨b, found, equal.symm⟩

-- A look-up by a key that no other role of the list shares.
theorem find_unique (key : Role → String) {roles : List Role} {role : Role}
    (unique : ∀ other ∈ roles, key other = key role → other = role) (member : role ∈ roles) :
    roles.find? (key · == key role) = some role := by
  cases search : roles.find? (key · == key role) with
  | none => simpa using List.find?_eq_none.mp search role member
  | some found =>
    have sameKey : key found = key role := by simpa using List.find?_some search
    rw [unique found (List.mem_of_find?_eq_some search) sameKey]

-- Roles without an id may be many, and names may repeat.
def DistinctIds (roles : List Role) : Prop := ((roles.filter (·.hasId)).map (·.id)).Nodup

instance (roles : List Role) : Decidable (DistinctIds roles) :=
  inferInstanceAs (Decidable ((roles.filter (·.hasId)).map (·.id)).Nodup)

theorem DistinctIds.same_id {roles : List Role} (distinct : DistinctIds roles) {a b : Role} (left : a ∈ roles)
    (right : b ∈ roles) (identified : b.hasId) (same : a.id = b.id) : a = b := by
  have leftId := hasId_of_same_id same identified
  exact List.inj_on_of_nodup_map distinct (List.mem_filter.mpr ⟨left, leftId⟩)
    (List.mem_filter.mpr ⟨right, identified⟩) same

-- What a resource may declare. An empty id stands for no id, so it may occur more than once.
structure Declared (roles : List Role) : Prop where
  names : (roles.map (·.name)).Nodup
  ids : ((roles.filter (·.hasId)).map (·.id)).Nodup

-- What a realm reports. It has given an id to every role that it keeps.
structure Observed (roles : List Role) : Prop where
  identified : ∀ role ∈ roles, role.hasId
  ids : (roles.map (·.id)).Nodup
  names : (roles.map (·.name)).Nodup

variable {declared observed : List Role} {a b : Role}

theorem Declared.nodup (unique : Declared declared) : declared.Nodup := unique.names.of_map _

theorem Declared.same_name (unique : Declared declared) (left : a ∈ declared) (right : b ∈ declared)
    (same : a.name = b.name) : a = b :=
  List.inj_on_of_nodup_map unique.names left right same

theorem Declared.same_id (unique : Declared declared) (left : a ∈ declared) (right : b ∈ declared)
    (identified : b.hasId) (same : a.id = b.id) : a = b :=
  DistinctIds.same_id unique.ids left right identified same

theorem Observed.nodup (unique : Observed observed) : observed.Nodup := unique.ids.of_map _

theorem Observed.same_name (unique : Observed observed) (left : a ∈ observed) (right : b ∈ observed)
    (same : a.name = b.name) : a = b :=
  List.inj_on_of_nodup_map unique.names left right same

theorem Observed.same_id (unique : Observed observed) (left : a ∈ observed) (right : b ∈ observed)
    (same : a.id = b.id) : a = b :=
  List.inj_on_of_nodup_map unique.ids left right same

-- Unique names on both sides turn "each has a counterpart" into "the same roles, each once".
theorem bare_perm {left right : List Role} (leftNames : (left.map (·.name)).Nodup)
    (rightNames : (right.map (·.name)).Nodup)
    (forward : ∀ a ∈ left, ∃ b ∈ right, a.bare = b.bare)
    (backward : ∀ b ∈ right, ∃ a ∈ left, a.bare = b.bare) :
    (left.map bare).Perm (right.map bare) := by
  have leftNodup : (left.map bare).Nodup := List.Nodup.of_map (·.name) (by rwa [bare_names])
  have rightNodup : (right.map bare).Nodup := List.Nodup.of_map (·.name) (by rwa [bare_names])
  apply (List.perm_ext_iff_of_nodup leftNodup rightNodup).mpr
  intro role
  simp only [List.mem_map]
  constructor
  · intro found
    obtain ⟨a, member, rfl⟩ := found
    obtain ⟨b, other, same⟩ := forward a member
    exact ⟨b, other, same.symm⟩
  · intro found
    obtain ⟨b, member, rfl⟩ := found
    obtain ⟨a, other, same⟩ := backward b member
    exact ⟨a, other, same⟩

end RealmPlan.Role
