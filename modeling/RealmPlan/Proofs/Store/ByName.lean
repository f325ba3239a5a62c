import RealmPlan.Proofs.Classification
import RealmPlan.Proofs.Store.Contents

namespace RealmPlan.Keeper
open Role Role.Change

variable {reserved : List String} (issuer : Issuer reserved) (pass : Pass) {store : Store} {roles : List Role}
  {role old : Role} {pins : List (Role × Role)} {pin : Role × Role} {declared observed : List Role}

-- A role takes a name that it has already or that no other role has.
def mayTake (roles : List Role) (pin : Role × Role) : Bool :=
  pin.1.name == pin.2.name || !roles.any (·.name == pin.1.name)

-- The pinned updates that are not refused, when each of them meets what those before it have left.
def granted (roles : List Role) : List (Role × Role) → List (Role × Role)
  | [] => []
  | pin :: rest =>
    if mayTake roles pin then pin :: granted (roles.map (settled [pin.1])) rest else granted roles rest

theorem byName_deleteRole (names : (store.roles.map (·.name)).Nodup) (member : role ∈ store.roles) :
    byName issuer store (pass.deleteRole role).operation =
      some { store with roles := store.roles.filter (· ≠ role) } := by
  have held : store.holds role.name = true := Store.holds_iff.mpr (List.mem_map_of_mem member)
  have others : store.roles.filter (·.name != role.name) = store.roles.filter (· ≠ role) := by
    apply List.filter_congr
    intro other otherMember
    have same : other.name = role.name ↔ other = role :=
      ⟨List.inj_on_of_nodup_map names otherMember member, congrArg Role.name⟩
    simp [bne, same, Bool.beq_eq_decide_eq]
  simp only [Pass.deleteRole, byName, held, if_true, others]

theorem byName_updatePin (distinct : store.ids.Nodup) (names : (store.roles.map (·.name)).Nodup)
    (member : pin.2 ∈ store.roles) (same : pin.2.id = pin.1.id) :
    byName issuer store (pass.updateRole pin.1 pin.2).operation =
      if mayTake store.roles pin then some { store with roles := store.roles.map (settled [pin.1]) }
      else none := by
  have held : store.holds pin.2.name = true := Store.holds_iff.mpr (List.mem_map_of_mem member)
  have renamed : (store.roles.map fun kept => if kept.name = pin.2.name then pin.1.under kept.id else kept) =
      store.roles.map (settled [pin.1]) := by
    apply List.map_congr_left
    intro kept keptMember
    have once : kept.name = pin.2.name ↔ pin.1.id = kept.id := by
      constructor
      · intro sameName
        rw [List.inj_on_of_nodup_map names keptMember member sameName, same]
      · intro sameId
        rw [List.inj_on_of_nodup_map distinct keptMember member (sameId.symm.trans same.symm)]
    rw [settled_cons]
    by_cases pinned : pin.1.id = kept.id
    · rw [if_pos (once.mpr pinned), if_pos pinned, ← pinned, under_self]
    · rw [if_neg (fun sameName => pinned (once.mp sameName)), if_neg pinned]
      rfl
  simp only [Pass.updateRole, byName, held, Bool.true_and, renamed]
  rfl

theorem byName_refresh (kept : role.name ∈ store.roles.map (·.name)) :
    byName issuer store (pass.updateRole role role).operation =
      some { store with roles := store.roles.map (refreshed [role]) } := by
  have held : store.holds role.name = true := Store.holds_iff.mpr kept
  simp only [Pass.updateRole, byName, held, beq_self_eq_true, Bool.true_or, Bool.and_self, if_true]
  refine congrArg (fun roles => some { store with roles }) (List.map_congr_left fun kept _ => ?_)
  rw [refreshed_cons]
  by_cases same : role.name = kept.name
  · simp [same]
  · simp [same, Ne.symm same, refreshed]

theorem byName_create (store : Store) (role : Role) :
    byName issuer store (pass.createRole role).operation =
      if role.name ∈ store.roles.map (·.name) then none else some (store.make issuer role) := by
  simp only [Pass.createRole, byName, Store.holds_iff]

theorem granted_sublist (roles : List Role) (pins : List (Role × Role)) : (granted roles pins).Sublist pins := by
  induction pins generalizing roles with
  | nil => exact .slnil
  | cons pin rest ih =>
    unfold granted
    split
    · exact (ih _).cons_cons pin
    · exact (ih _).cons pin

-- An update that takes a free name goes through, since those before it take other names.
theorem mem_granted (names : (pins.map (·.1.name)).Nodup) (member : pin ∈ pins)
    (free : ∀ kept ∈ roles, kept.name = pin.1.name → kept = pin.2) : pin ∈ granted roles pins := by
  induction pins generalizing roles with
  | nil => cases member
  | cons first rest ih =>
    obtain ⟨apart, restNames⟩ := List.nodup_cons.mp names
    unfold granted
    rcases List.mem_cons.mp member with rfl | later
    · have may : mayTake roles pin = true := by
        simp only [mayTake, Bool.or_eq_true, beq_iff_eq, Bool.not_eq_true', List.any_eq_false]
        rw [Classical.or_iff_not_imp_left]
        intro renamed kept keptMember same
        exact renamed (by rw [← free kept keptMember same, same])
      rw [if_pos may]
      exact List.mem_cons_self
    -- The first update leaves the name free, since it takes another one.
    · have other : first.1.name ≠ pin.1.name :=
        fun same => apart (List.mem_map.mpr ⟨pin, later, same.symm⟩)
      split
      · refine List.mem_cons_of_mem _ (ih restNames later fun kept keptMember same => ?_)
        obtain ⟨before, beforeMember, rfl⟩ := List.mem_map.mp keptMember
        rw [settled_cons] at same ⊢
        split at same
        · exact absurd same other
        · rename_i unpinned
          rw [if_neg unpinned]
          exact free before beforeMember same
      · exact ih restNames later free

-- An update is refused as long as another role has the name and stays what it is, which it does if
-- its own update is refused in turn.
theorem not_mem_granted {waiting : Role → Prop}
    (blocked : ∀ pin ∈ pins, waiting pin.1 → pin.1.name ≠ pin.2.name ∧
      ∃ kept ∈ roles, kept.name = pin.1.name ∧ ∀ next ∈ pins, next.1.id = kept.id → waiting next.1)
    (member : pin ∈ granted roles pins) : ¬ waiting pin.1 := by
  induction pins generalizing roles with
  | nil => cases member
  | cons first rest ih =>
    have blockedRest := fun pin later => blocked pin (List.mem_cons_of_mem first later)
    unfold granted at member
    split at member
    · rename_i may
      have moves : ¬ waiting first.1 := by
        intro waits
        obtain ⟨renamed, kept, keptMember, same, _⟩ := blocked first List.mem_cons_self waits
        simp only [mayTake, renamed, beq_false_of_ne, ne_eq, not_false_iff, Bool.false_or, Bool.not_eq_true',
          List.any_eq_false, beq_iff_eq] at may
        exact may kept keptMember same
      rcases List.mem_cons.mp member with rfl | later
      · exact moves
      -- The role that has just moved did not wait, so it was in nobody's way who does.
      · refine ih (fun pin pinMember waits => ?_) later
        obtain ⟨renamed, kept, keptMember, same, onward⟩ := blockedRest pin pinMember waits
        refine ⟨renamed, kept, List.mem_map.mpr ⟨kept, keptMember, ?_⟩, same,
          fun next nextMember => onward next (List.mem_cons_of_mem _ nextMember)⟩
        refine settled_of_unpinned fun role single sameId => moves ?_
        rw [List.mem_singleton.mp single] at sameId
        exact onward first List.mem_cons_self sameId
    · refine ih (fun pin pinMember waits => ?_) member
      obtain ⟨renamed, kept, keptMember, same, onward⟩ := blockedRest pin pinMember waits
      exact ⟨renamed, kept, keptMember, same, fun next nextMember => onward next (List.mem_cons_of_mem _ nextMember)⟩

-- Who is pinned later on still is where it was, whether or not the one before it has moved.
theorem pin_waits {rest : List (Role × Role)} (kept : ∀ other ∈ rest, other.2 ∈ roles ∧ other.2.id = other.1.id)
    (apart : pin.1.id ∉ rest.map (·.1.id)) :
    ∀ other ∈ rest, other.2 ∈ roles.map (settled [pin.1]) ∧ other.2.id = other.1.id := by
  intro other later
  obtain ⟨member, same⟩ := kept other later
  refine ⟨List.mem_map.mpr ⟨other.2, member, settled_of_unpinned fun role single sameId => apart ?_⟩, same⟩
  rw [List.mem_singleton.mp single] at sameId
  exact List.mem_map.mpr ⟨other, later, (sameId.trans same).symm⟩

-- Pinned roles still are what they were when their own update comes.
theorem after_updatePins (store : Store) (distinct : store.ids.Nodup)
    (names : (store.roles.map (·.name)).Nodup)
    (kept : ∀ pin ∈ pins, pin.2 ∈ store.roles ∧ pin.2.id = pin.1.id) (once : (pins.map (·.1.id)).Nodup) :
    (byName issuer).after store ((pins.map fun pin => pass.updateRole pin.1 pin.2).map (·.operation)) =
      { store with roles := store.roles.map (settled ((granted store.roles pins).map (·.1))) } := by
  induction pins generalizing store with
  | nil =>
    have unchanged : store.roles.map (settled []) = store.roles := List.map_id'' (fun _ => rfl) _
    simp [after, granted, unchanged]
  | cons pin rest ih =>
    obtain ⟨apart, restOnce⟩ := List.nodup_cons.mp once
    obtain ⟨member, sameId⟩ := kept pin List.mem_cons_self
    have keptRest := fun other later => kept other (List.mem_cons_of_mem pin later)
    have step := byName_updatePin issuer pass distinct names member sameId
    rw [List.map_cons, List.map_cons, after_cons, granted]
    split
    · rename_i may
      rw [if_pos may] at step
      have sameIds := ids_of_map (settled_id [pin.1]) store
      rw [step, Option.getD_some, ih _ (by rwa [sameIds]) (byName_names names step) _ restOnce]
      · have elsewhere : ∀ other ∈ (granted (store.roles.map (settled [pin.1])) rest).map (·.1),
            other.id ≠ pin.1.id := by
          intro other later sameOther
          obtain ⟨laterPin, pinMember, rfl⟩ := List.mem_map.mp later
          exact apart (List.mem_map.mpr ⟨laterPin, (granted_sublist _ _).subset pinMember, sameOther⟩)
        simp only [List.map_map, List.map_cons]
        exact congrArg (fun roles => { store with roles })
          (List.map_congr_left fun role _ => settled_settled elsewhere role)
      · exact pin_waits keptRest apart
    · rename_i refused
      rw [if_neg refused] at step
      rw [step, Option.getD_none]
      exact ih store distinct names keptRest restOnce

-- What is to be created is, unless its name is taken. A name that is taken behind the pinned updates
-- is not given up any more.
theorem after_keepOrCreate (store : Store)
    (once : (roles.map (·.name)).Nodup)
    (present : ∀ role ∈ roles, keeps declared observed role = true → role.name ∈ store.roles.map (·.name)) :
    Rest reserved (roles.filter (keeps declared observed))
      (roles.filter fun role => !keeps declared observed role && decide (role.name ∉ store.roles.map (·.name)))
      store ((byName issuer).after store ((roles.map (pass.keepOrCreate declared observed)).map (·.operation))) := by
  induction roles generalizing store with
  | nil =>
    have unchanged : store.roles.map (refreshed []) = store.roles := List.map_id'' (fun _ => rfl) _
    exact ⟨[], by simp [after, unchanged], rfl, by simp⟩
  | cons role rest ih =>
    obtain ⟨apart, restOnce⟩ := List.nodup_cons.mp once
    have presentRest := fun other later => present other (List.mem_cons_of_mem _ later)
    have unnamed : ∀ other ∈ rest.filter (keeps declared observed), other.name ≠ role.name :=
      fun other member same => apart (List.mem_map.mpr ⟨other, (List.mem_filter.mp member).1, same⟩)
    rw [List.map_cons, List.map_cons, after_cons]
    cases stays : keeps declared observed role with
    | true =>
      have sameNames : (store.roles.map (refreshed [role])).map (·.name) = store.roles.map (·.name) := by
        simp
      have step := byName_refresh issuer pass (present role List.mem_cons_self stays)
      have remains := ih { store with roles := store.roles.map (refreshed [role]) } restOnce (by rwa [sameNames])
      simp only [Pass.keepOrCreate, stays, if_true, step, Option.getD_some]
      rw [List.filter_cons_of_pos stays, List.filter_cons_of_neg (by simp [stays])]
      simp only [sameNames] at remains
      exact remains.refresh unnamed
    | false =>
      have step := byName_create issuer pass store role
      rw [List.filter_cons_of_neg (by simp [stays])]
      simp only [Pass.keepOrCreate, stays, Bool.false_eq_true, if_false]
      by_cases taken : role.name ∈ store.roles.map (·.name)
      · rw [if_pos taken] at step
        rw [step, Option.getD_none, List.filter_cons_of_neg (by simpa [stays] using taken)]
        exact ih store restOnce presentRest
      · rw [if_neg taken] at step
        -- The name that has just been taken is a name of none of the rest.
        have sameFree : (rest.filter fun other =>
              !keeps declared observed other && decide (other.name ∉ (store.make issuer role).roles.map (·.name))) =
            rest.filter fun other =>
              !keeps declared observed other && decide (other.name ∉ store.roles.map (·.name)) := by
          apply List.filter_congr
          intro other later
          have differ : other.name ≠ role.name := fun same => apart (List.mem_map.mpr ⟨other, later, same⟩)
          simp only [Store.mem_names_make, differ, or_false]
        have remains := ih (store.make issuer role) restOnce fun other later otherStays =>
          Store.mem_names_make.mpr (.inl (presentRest other later otherStays))
        rw [sameFree] at remains
        rw [step, Option.getD_some, List.filter_cons_of_pos (by simpa [stays] using taken)]
        exact remains.create unnamed

end RealmPlan.Keeper
