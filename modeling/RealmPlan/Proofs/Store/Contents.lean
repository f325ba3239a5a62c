import RealmPlan.Proofs.Store

namespace RealmPlan
namespace Role

-- A kept role whose id is declared becomes the declared role.
def settled (roles : List Role) (kept : Role) : Role := (roles.find? (·.id == kept.id)).getD kept

-- A kept role whose name is declared becomes the declared role, but keeps its id.
def refreshed (roles : List Role) (kept : Role) : Role :=
  match roles.find? (·.name == kept.name) with
  | some role => role.under kept.id
  | none => kept

variable {roles : List Role} {role kept : Role}

theorem settled_cons (role kept : Role) (rest : List Role) :
    settled (role :: rest) kept = if role.id = kept.id then role else settled rest kept := by
  by_cases same : role.id = kept.id <;> simp [settled, same]

@[simp] theorem settled_id (roles : List Role) (kept : Role) : (settled roles kept).id = kept.id := by
  induction roles with
  | nil => rfl
  | cons role rest ih =>
    rw [settled_cons]
    split
    · assumption
    · exact ih

theorem settled_of_pinned (unique : ∀ other ∈ roles, other.id = role.id → other = role)
    (member : role ∈ roles) (same : role.id = kept.id) : settled roles kept = role := by
  have found : roles.find? (·.id == kept.id) = some role := same ▸ find_unique Role.id unique member
  simp [settled, found]

theorem settled_of_unpinned (apart : ∀ role ∈ roles, role.id ≠ kept.id) : settled roles kept = kept := by
  have absent : roles.find? (·.id == kept.id) = none :=
    List.find?_eq_none.mpr fun role member => by simpa using apart role member
  simp [settled, absent]

-- Whoever is in place is not met again, as long as no two declared roles share an id.
theorem settled_settled (apart : ∀ other ∈ roles, other.id ≠ role.id) (kept : Role) :
    settled roles (settled [role] kept) = settled (role :: roles) kept := by
  rw [settled_cons, settled_cons]
  split
  · exact settled_of_unpinned apart
  · rfl

theorem refreshed_cons (role kept : Role) (rest : List Role) :
    refreshed (role :: rest) kept =
      if role.name = kept.name then role.under kept.id else refreshed rest kept := by
  by_cases same : role.name = kept.name <;> simp [refreshed, same]

@[simp] theorem refreshed_id (roles : List Role) (kept : Role) : (refreshed roles kept).id = kept.id := by
  unfold refreshed
  split <;> rfl

@[simp] theorem refreshed_name (roles : List Role) (kept : Role) : (refreshed roles kept).name = kept.name := by
  unfold refreshed
  split
  · rename_i found search
    simpa using List.find?_some search
  · rfl

theorem refreshed_of_named (unique : ∀ other ∈ roles, other.name = role.name → other = role)
    (member : role ∈ roles) (same : role.name = kept.name) :
    refreshed roles kept = role.under kept.id := by
  have found : roles.find? (·.name == kept.name) = some role := same ▸ find_unique Role.name unique member
  simp [refreshed, found]

theorem refreshed_of_unnamed (apart : ∀ role ∈ roles, role.name ≠ kept.name) : refreshed roles kept = kept := by
  have absent : roles.find? (·.name == kept.name) = none :=
    List.find?_eq_none.mpr fun role member => by simpa using apart role member
  simp [refreshed, absent]

end Role

namespace Keeper
open Role

variable {reserved : List String} {issuer : Issuer reserved} {store : Store} {roles : List Role} {role : Role}

-- Deletions take away what they name and nothing else, whatever a realm knows its roles by.
theorem applyAll_deleteRole {keeper : Keeper} {key : Role → String} (pass : Pass)
    (deletes : ∀ {store : Store} {role}, (store.roles.map key).Nodup → role ∈ store.roles →
      keeper store (pass.deleteRole role).operation =
        some { store with roles := store.roles.filter (· ≠ role) })
    (store : Store) (distinct : (store.roles.map key).Nodup) (kept : roles ⊆ store.roles)
    (once : roles.Nodup) :
    keeper.applyAll store ((roles.map pass.deleteRole).map (·.operation)) =
      some { store with roles := store.roles.filter (· ∉ roles) } := by
  induction roles generalizing store with
  | nil => simp [applyAll]
  | cons role rest ih =>
    obtain ⟨apart, restOnce⟩ := List.nodup_cons.mp once
    rw [List.map_cons, List.map_cons, applyAll_cons, deletes distinct (kept List.mem_cons_self),
      Option.bind_some, ih]
    · simp only [List.filter_filter, List.mem_cons, not_or, Bool.decide_and, Bool.and_comm]
    · exact (List.filter_sublist.map _).nodup distinct
    · intro other later
      refine List.mem_filter.mpr ⟨kept (List.mem_cons_of_mem _ later), ?_⟩
      simpa using fun (same : other = role) => apart (same ▸ later)
    · exact restOnce

-- What the calls for the remaining roles leave: the kept roles with their new payload, and behind
-- them the created ones.
structure Rest (reserved : List String) (refreshes creates : List Role) (before after : Store) : Prop where
  roles : ∃ created, after.roles = before.roles.map (refreshed refreshes) ++ created ∧
    created.map bare = creates.map bare ∧ ∀ role ∈ created, role.id ∉ reserved

theorem Rest.refresh {refreshes creates : List Role} {after : Store}
    (apart : ∀ other ∈ refreshes, other.name ≠ role.name)
    (rest : Rest reserved refreshes creates { store with roles := store.roles.map (refreshed [role]) } after) :
    Rest reserved (role :: refreshes) creates store after := by
  obtain ⟨created, roles, bare, fresh⟩ := rest
  refine ⟨created, ?_, bare, fresh⟩
  rw [roles, List.map_map]
  refine congrArg (· ++ created) (List.map_congr_left fun kept _ => ?_)
  rw [Function.comp_apply, refreshed_cons, refreshed_cons]
  split
  · exact refreshed_of_unnamed apart
  · rfl

theorem Rest.create {refreshes creates : List Role} {after : Store}
    (apart : ∀ other ∈ refreshes, other.name ≠ role.name)
    (rest : Rest reserved refreshes creates (store.make issuer role) after) :
    Rest reserved refreshes (role :: creates) store after := by
  obtain ⟨created, roles, bare, fresh⟩ := rest
  have made : refreshed refreshes (role.under (issuer.issue store)) = role.under (issuer.issue store) :=
    refreshed_of_unnamed apart
  refine ⟨role.under (issuer.issue store) :: created, ?_, ?_, ?_⟩
  · rw [roles, Store.make, List.map_append, List.map_singleton, made, List.append_assoc]
    rfl
  · rw [List.map_cons, List.map_cons, bare, under_bare]
  · intro other member
    rcases List.mem_cons.mp member with rfl | later
    · exact issuer.unreserved store
    · exact fresh other later

end Keeper
end RealmPlan
