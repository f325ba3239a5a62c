import RealmPlan.Proofs.Classification
import RealmPlan.Proofs.Store.Contents

namespace RealmPlan.Keeper
open Role Role.Change

variable {reserved : List String} (issuer : Issuer reserved) (pass : Pass) {store : Store} {roles : List Role}
  {role old : Role} {declared observed : List Role}

theorem countP_key {roles : List Role} {key : Role → String} (distinct : (roles.map key).Nodup)
    {role : Role} (member : role ∈ roles) : roles.countP (key · == key role) = 1 := by
  have once := List.count_eq_one_of_mem distinct (List.mem_map_of_mem member)
  rwa [List.count, List.countP_map] at once

theorem byId_deleteRole (distinct : store.ids.Nodup) (member : role ∈ store.roles) :
    byId issuer store (pass.deleteRole role).operation =
      some { store with roles := store.roles.filter (· ≠ role) } := by
  have others : store.roles.filter (·.id != role.id) = store.roles.filter (· ≠ role) := by
    apply List.filter_congr
    intro other otherMember
    have same : other.id = role.id ↔ other = role :=
      ⟨List.inj_on_of_nodup_map distinct otherMember member, congrArg Role.id⟩
    simp [bne, same, Bool.beq_eq_decide_eq]
  simp only [Pass.deleteRole, byId, countP_key distinct member, if_true, others]

theorem byId_updatePin (distinct : store.ids.Nodup) (numbered : old.hasId) (same : old.id = role.id)
    (kept : old.id ∈ store.ids) :
    byId issuer store (pass.updateRole role old).operation =
      some { store with roles := store.roles.map (settled [role]) } := by
  have denotes : old.denotes = fun kept => kept.id == role.id := by
    funext kept
    simp [Role.denotes, numbered, same, eq_comm]
  obtain ⟨target, targetMember, targetId⟩ := List.mem_map.mp kept
  have found : store.roles.countP (·.id == role.id) = 1 := by
    rw [← same, ← targetId]
    exact countP_key distinct targetMember
  simp only [Pass.updateRole, byId, denotes, found, if_true]
  refine congrArg (fun roles => some { store with roles }) (List.map_congr_left fun kept _ => ?_)
  rw [settled_cons]
  by_cases pinned : role.id = kept.id
  · simp [← pinned]
  · simp [pinned, Ne.symm pinned, settled]

theorem byId_refresh (names : (store.roles.map (·.name)).Nodup) (unnumbered : role.hasId = false)
    (kept : role.name ∈ store.roles.map (·.name)) :
    byId issuer store (pass.updateRole role role).operation =
      some { store with roles := store.roles.map (refreshed [role]) } := by
  have denotes : role.denotes = fun kept => kept.name == role.name := by
    funext kept
    simp [Role.denotes, unnumbered, eq_comm]
  obtain ⟨target, targetMember, targetName⟩ := List.mem_map.mp kept
  have found : store.roles.countP (·.name == role.name) = 1 := by
    rw [← targetName]
    exact countP_key names targetMember
  simp only [Pass.updateRole, byId, denotes, found, if_true]
  refine congrArg (fun roles => some { store with roles }) (List.map_congr_left fun kept _ => ?_)
  rw [refreshed_cons]
  by_cases same : role.name = kept.name
  · simp [same]
  · simp [same, Ne.symm same, refreshed]

-- Updates by id leave every id in its place, so that one does not get in the way of another.
theorem applyAll_updatePins {pins : List (Role × Role)} (store : Store)
    (distinct : store.ids.Nodup)
    (same : ∀ pin ∈ pins, pin.2.hasId ∧ pin.2.id = pin.1.id ∧ pin.2.id ∈ store.ids)
    (once : (pins.map (·.1.id)).Nodup) :
    (byId issuer).applyAll store ((pins.map fun pin => pass.updateRole pin.1 pin.2).map (·.operation)) =
      some { store with roles := store.roles.map (settled (pins.map (·.1))) } := by
  induction pins generalizing store with
  | nil =>
    have unchanged : store.roles.map (settled []) = store.roles := List.map_id'' (fun _ => rfl) _
    simp [applyAll, unchanged]
  | cons pin rest ih =>
    obtain ⟨apart, restOnce⟩ := List.nodup_cons.mp once
    obtain ⟨numbered, sameId, oldKept⟩ := same pin List.mem_cons_self
    have sameIds := ids_of_map (settled_id [pin.1]) store
    rw [List.map_cons, List.map_cons, applyAll_cons, byId_updatePin issuer pass distinct numbered sameId oldKept,
      Option.bind_some, ih]
    · have elsewhere : ∀ other ∈ rest.map (·.1), other.id ≠ pin.1.id := by
        intro other later sameOther
        obtain ⟨laterPin, pinMember, rfl⟩ := List.mem_map.mp later
        exact apart (List.mem_map.mpr ⟨laterPin, pinMember, sameOther⟩)
      simp only [List.map_map, List.map_cons]
      exact congrArg (fun roles => some { store with roles })
        (List.map_congr_left fun kept _ => settled_settled elsewhere kept)
    · rwa [sameIds]
    · intro laterPin later
      rw [sameIds]
      exact same laterPin (List.mem_cons_of_mem _ later)
    · exact restOnce

-- A role is created under a name that no other role has, so it is never refreshed later on.
theorem applyAll_keepOrCreate (store : Store)
    (names : (store.roles.map (·.name)).Nodup) (once : (roles.map (·.name)).Nodup)
    (present : ∀ role ∈ roles, keeps declared observed role = true → role.name ∈ store.roles.map (·.name))
    (absent : ∀ role ∈ roles, keeps declared observed role = false → role.name ∉ store.roles.map (·.name)) :
    ∃ final,
      (byId issuer).applyAll store ((roles.map (pass.keepOrCreate declared observed)).map (·.operation)) =
        some final ∧
      Rest reserved (roles.filter (keeps declared observed)) (roles.filter (!keeps declared observed ·))
        store final := by
  induction roles generalizing store with
  | nil =>
    have unchanged : store.roles.map (refreshed []) = store.roles := List.map_id'' (fun _ => rfl) _
    exact ⟨store, rfl, [], by simp [unchanged], rfl, by simp⟩
  | cons role rest ih =>
    obtain ⟨apart, restOnce⟩ := List.nodup_cons.mp once
    have presentRest := fun other later => present other (List.mem_cons_of_mem _ later)
    have absentRest := fun other later => absent other (List.mem_cons_of_mem _ later)
    have unnamed : ∀ other ∈ rest.filter (keeps declared observed), other.name ≠ role.name :=
      fun other member same => apart (List.mem_map.mpr ⟨other, (List.mem_filter.mp member).1, same⟩)
    rw [List.map_cons, List.map_cons, applyAll_cons]
    cases stays : keeps declared observed role with
    | true =>
      have sameNames : (store.roles.map (refreshed [role])).map (·.name) = store.roles.map (·.name) := by
        simp
      obtain ⟨final, applied, remains⟩ := ih { store with roles := store.roles.map (refreshed [role]) }
        (by rwa [sameNames]) restOnce (by rwa [sameNames]) (by rwa [sameNames])
      refine ⟨final, ?_, ?_⟩
      · simp only [Pass.keepOrCreate, stays, if_true]
        rw [byId_refresh issuer pass names (keeps_iff.mp stays).1 (present role List.mem_cons_self stays),
          Option.bind_some, applied]
      · rw [List.filter_cons_of_pos stays, List.filter_cons_of_neg (by simp [stays])]
        exact remains.refresh unnamed
    | false =>
      have free := absent role List.mem_cons_self stays
      have madeDistinct := Store.names_make_nodup issuer names free
      have madePresent : ∀ other ∈ rest, keeps declared observed other = true →
          other.name ∈ (store.make issuer role).roles.map (·.name) :=
        fun other later otherStays => Store.mem_names_make.mpr (.inl (presentRest other later otherStays))
      have madeAbsent : ∀ other ∈ rest, keeps declared observed other = false →
          other.name ∉ (store.make issuer role).roles.map (·.name) := by
        intro other later otherGoes taken
        rcases Store.mem_names_make.mp taken with kept | same
        · exact absentRest other later otherGoes kept
        · exact apart (List.mem_map.mpr ⟨other, later, same⟩)
      obtain ⟨final, applied, remains⟩ := ih (store.make issuer role) madeDistinct restOnce madePresent madeAbsent
      refine ⟨final, ?_, ?_⟩
      · simp only [Pass.keepOrCreate, stays, Bool.false_eq_true, if_false]
        exact applied
      · rw [List.filter_cons_of_neg (by simp [stays]), List.filter_cons_of_pos (by simp [stays])]
        exact remains.create unnamed

end RealmPlan.Keeper
