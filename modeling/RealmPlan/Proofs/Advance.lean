import RealmPlan.Proofs.Convergence
import RealmPlan.Proofs.Deadlocks
import RealmPlan.Proofs.Store.ByName

namespace RealmPlan
namespace Role.Change

variable {declared observed : List Role} {role old kept : Role}

-- The pinned roles whose update is not refused, where names are not shared.
def moving (declared observed : List Role) : List Role :=
  (Keeper.granted (staying declared observed) (pins declared observed)).map (·.1)

theorem moving_subset (observes : Observed observed) : moving declared observed ⊆ declared := by
  intro role moves
  obtain ⟨⟨_, old⟩, granted, rfl⟩ := List.mem_map.mp moves
  exact ((mem_pins observes).mp ((Keeper.granted_sublist _ _).subset granted)).1

-- A name that no other pinned role has is free: a role that nobody pins and that has it is deleted.
theorem moving_of_free (declares : Declared declared) (observes : Observed observed)
    (pin : (role, old) ∈ pins declared observed)
    (free : ∀ other ∈ observed, Pinned declared other → other.name = role.name → other = old) :
    role ∈ moving declared observed := by
  obtain ⟨isDeclared, numbered, _, _⟩ := (mem_pins observes).mp pin
  refine List.mem_map.mpr ⟨(role, old), Keeper.mem_granted (pins_names_nodup declares) pin fun other stays sameName => ?_, rfl⟩
  obtain ⟨member, heir, inherits⟩ := (mem_staying observes).mp stays
  cases heirNumbered : heir.hasId with
  | true =>
    obtain ⟨heirDeclared, sameId⟩ := (inherits_numbered heirNumbered).mp inherits
    exact free other member ⟨heir, heirDeclared, sameId.symm⟩ sameName
  | false =>
    obtain ⟨heirDeclared, heirName, _⟩ := (inherits_unnumbered heirNumbered).mp inherits
    rw [declares.same_name heirDeclared isDeclared (heirName.symm.trans sameName), numbered] at heirNumbered
    cases heirNumbered

theorem not_moving_of_jam (declares : Declared declared) (observes : Observed observed) {waiting : Role → Prop}
    (jam : Jam declared observed waiting) (waits : waiting role) : role ∉ moving declared observed := by
  intro moves
  obtain ⟨⟨_, old⟩, granted, rfl⟩ := List.mem_map.mp moves
  refine Keeper.not_mem_granted (fun pin member pinWaits => ?_) granted waits
  obtain ⟨isDeclared, numbered, oldMember, same⟩ := (mem_pins observes).mp member
  obtain ⟨_, _, next, nextWaits, differ, other, otherMember, otherId, otherName⟩ := jam pin.1 pinWaits
  obtain ⟨nextDeclared, nextNumbered, _⟩ := jam next nextWaits
  have nextPin : (next, other) ∈ pins declared observed :=
    (mem_pins observes).mpr ⟨nextDeclared, nextNumbered, otherMember, otherId⟩
  refine ⟨fun unrenamed => differ ?_, other, pin_stays observes nextPin, otherName, fun onward onwardPin sameId => ?_⟩
  · have one := observes.same_name otherMember oldMember (otherName.trans unrenamed)
    exact declares.same_id nextDeclared isDeclared numbered (by rw [← otherId, one, same])
  · obtain ⟨onwardDeclared, _⟩ := (mem_pins observes).mp onwardPin
    rwa [declares.same_id onwardDeclared nextDeclared nextNumbered (sameId.trans otherId)]

-- The names behind the pinned updates. They do not change any more, but for those that come new.
def takenNames (declared observed : List Role) : List String :=
  ((staying declared observed).map (settled (moving declared observed))).map (·.name)

-- What a role that is not deleted is behind all updates.
def become (declared observed : List Role) (old : Role) : Role :=
  refreshed (keepers declared observed) (settled (moving declared observed) old)

@[simp] theorem become_id (declared observed : List Role) (old : Role) : (become declared observed old).id = old.id := by
  simp [become]

theorem become_moving (declares : Declared declared) (observes : Observed observed)
    (pin : (role, old) ∈ pins declared observed) (moves : role ∈ moving declared observed) :
    become declared observed old = role := by
  obtain ⟨isDeclared, numbered, _, same⟩ := (mem_pins observes).mp pin
  rw [become, settled_of_chosen declares (moving_subset observes) numbered moves same,
    refreshed_of_numbered declares observes isDeclared numbered]

theorem become_refused (declares : Declared declared) (observes : Observed observed)
    (pin : (role, old) ∈ pins declared observed) (refused : role ∉ moving declared observed) :
    become declared observed old = old := by
  obtain ⟨isDeclared, numbered, member, same⟩ := (mem_pins observes).mp pin
  rw [become, settled_of_not_chosen declares (moving_subset observes) isDeclared numbered refused same,
    refreshed_of_pinned observes member ⟨role, isDeclared, same.symm⟩]

theorem become_kept (declares : Declared declared) (observes : Observed observed) (member : old ∈ observed)
    (unnumbered : role.hasId = false) (inherits : Inherits declared role old) :
    become declared observed old = role.under old.id := by
  obtain ⟨_, _, unpinned⟩ := (inherits_unnumbered unnumbered).mp inherits
  rw [become, settled_of_not_pinned (moving_subset observes) unpinned,
    refreshed_of_inherits declares observes member unnumbered inherits]

theorem become_declared (declares : Declared declared) (observes : Observed observed) (member : old ∈ observed)
    (inherits : Inherits declared role old) :
    Pinned declared (become declared observed old) ∨
      role.hasId = false ∧ (become declared observed old).name = role.name := by
  cases numbered : role.hasId with
  | true =>
    obtain ⟨isDeclared, same⟩ := (inherits_numbered numbered).mp inherits
    exact .inl ⟨role, isDeclared, by rw [become_id, same]⟩
  | false =>
    rw [become_kept declares observes member numbered inherits]
    exact .inr ⟨rfl, rfl⟩

theorem taken_of_keeps (observes : Observed observed) (member : role ∈ others declared observed)
    (stays : keeps declared observed role = true) : role.name ∈ takenNames declared observed := by
  obtain ⟨unnumbered, old, oldMember, inherits⟩ := (mem_keepers observes).mp (List.mem_filter.mpr ⟨member, stays⟩)
  obtain ⟨_, same, unpinned⟩ := (inherits_unnumbered unnumbered).mp inherits
  refine List.mem_map.mpr ⟨old, List.mem_map.mpr ⟨old, ?_, ?_⟩, same⟩
  · exact (mem_staying observes).mpr ⟨oldMember, role, inherits⟩
  · exact settled_of_not_pinned (moving_subset observes) unpinned

-- The roles that are made, since nobody has their name.
def openings (declared observed : List Role) : List Role :=
  (others declared observed).filter fun role =>
    !keeps declared observed role && decide (role.name ∉ takenNames declared observed)

theorem mem_openings (observes : Observed observed)
    (known : ∀ role ∈ declared, role.hasId → role.id ∈ observed.map (·.id)) :
    role ∈ openings declared observed ↔
      role ∈ declared ∧ role.hasId = false ∧ keeps declared observed role = false ∧
        role.name ∉ takenNames declared observed := by
  simp only [openings, List.mem_filter, mem_others observes, Bool.and_eq_true, Bool.not_eq_true',
    decide_eq_true_eq, and_assoc]
  refine and_congr_right fun isDeclared => and_congr_left fun _ => ?_
  rw [← Bool.not_eq_true]
  refine ⟨fun unknown numbered => ?_, fun unnumbered numbered => absurd numbered unnumbered⟩
  obtain ⟨old, member, same⟩ := List.mem_map.mp (known role isDeclared numbered)
  exact unknown numbered old member same

-- It takes a pinned role to keep a role without an id from being made.
theorem taken_by_pinned (observes : Observed observed)
    (known : ∀ role ∈ declared, role.hasId → role.id ∈ observed.map (·.id)) (isDeclared : role ∈ declared)
    (unnumbered : role.hasId = false) (noHeir : ∀ old ∈ observed, ¬ Inherits declared role old)
    (closed : role ∉ openings declared observed) :
    ∃ old ∈ staying declared observed, Pinned declared old ∧ (become declared observed old).name = role.name := by
  have apart : ∀ old ∈ observed, old.name = role.name → ¬ Pinned declared old → False :=
    fun old member same unpinned =>
      noHeir old member ((inherits_unnumbered unnumbered).mpr ⟨isDeclared, same, unpinned⟩)
  have leaves : keeps declared observed role = false := by
    rw [← Bool.not_eq_true, keeps_iff]
    intro kept
    obtain ⟨_, old, member, same, unpinned⟩ := kept
    exact apart old member same unpinned
  rw [mem_openings observes known, and_iff_right isDeclared, and_iff_right unnumbered, and_iff_right leaves,
    not_not, takenNames, List.map_map] at closed
  obtain ⟨old, stays, same⟩ := List.mem_map.mp closed
  refine ⟨old, stays, ?_, by rw [become, refreshed_name]; exact same⟩
  by_contra unpinned
  rw [Function.comp_apply, settled_of_not_pinned (moving_subset observes) unpinned] at same
  exact apart old ((mem_staying observes).mp stays).1 same unpinned

-- Without an id a role goes on, is made, or finds a pinned role under its name.
theorem made_or_kept_off (declares : Declared declared) (observes : Observed observed)
    (known : ∀ role ∈ declared, role.hasId → role.id ∈ observed.map (·.id)) {created : List Role}
    (bare : created.map bare = (openings declared observed).map bare) (isDeclared : role ∈ declared)
    (unnumbered : role.hasId = false) :
    ∃ kept ∈ (staying declared observed).map (become declared observed) ++ created,
      kept.name = role.name ∧ (Pinned declared kept ∨ kept.bare = role.bare) := by
  have stays : ∀ old ∈ staying declared observed, become declared observed old ∈
      (staying declared observed).map (become declared observed) ++ created :=
    fun old member => List.mem_append_left _ (List.mem_map.mpr ⟨old, member, rfl⟩)
  by_cases heir : ∃ old ∈ observed, Inherits declared role old
  · obtain ⟨old, oldMember, inherits⟩ := heir
    have member := stays old ((mem_staying observes).mpr ⟨oldMember, role, inherits⟩)
    rw [become_kept declares observes oldMember unnumbered inherits] at member
    exact ⟨_, member, rfl, .inr (under_bare _ _)⟩
  by_cases opening : role ∈ openings declared observed
  · obtain ⟨new, member, same⟩ := exists_of_bare bare.symm opening
    exact ⟨new, List.mem_append_right _ member, name_of_bare same.symm, .inr same.symm⟩
  · push Not at heir
    obtain ⟨old, oldStays, pinned, same⟩ := taken_by_pinned observes known isDeclared unnumbered heir opening
    exact ⟨_, stays old oldStays, same, .inl (by simpa [Pinned] using pinned)⟩

end Role.Change

namespace Keeper
open Role Role.Change

-- What one pass makes of what it meets: a pinned role is what it is to be or what it was, nothing is
-- kept that is not declared, and a role without an id is there or kept off by a pinned one.
structure Advance (declared before after : List Role) : Prop where
  observes : Observed after
  moved : ∀ role old, (role, old) ∈ pins declared before → role ∈ moving declared before → role ∈ after
  refused : ∀ role old, (role, old) ∈ pins declared before → role ∉ moving declared before → old ∈ after
  only : ∀ kept ∈ after, Pinned declared kept ∨ ∃ role ∈ declared, role.hasId = false ∧ kept.name = role.name
  made : ∀ role ∈ declared, role.hasId = false →
    ∃ kept ∈ after, kept.name = role.name ∧ (Pinned declared kept ∨ kept.bare = role.bare)

variable {declared : List Role} {store : Store}

-- Deletions take away all that is not declared, and the pinned updates move whom they can.
theorem after_deletions (pass : Pass) (declared : List Role) (observes : Observed store.roles)
    {reserved : List String} (issuer : Issuer reserved) :
    (byName issuer).applyAll store (((surplus declared store.roles).map pass.deleteRole).map (·.operation)) =
      some { store with roles := staying declared store.roles } :=
  applyAll_deleteRole pass (byName_deleteRole issuer pass) store observes.names surplus_subset (surplus_nodup observes)

theorem pins_kept (observes : Observed store.roles) : ∀ pin ∈ pins declared store.roles,
    pin.2 ∈ staying declared store.roles ∧ pin.2.id = pin.1.id :=
  fun _ member => ⟨pin_stays observes member, ((mem_pins observes).mp member).2.2.2⟩

theorem staying_names_nodup (observes : Observed store.roles) : ((staying declared store.roles).map (·.name)).Nodup :=
  (List.filter_sublist.map _).nodup observes.names

theorem after_moves (pass : Pass) (declares : Declared declared) (observes : Observed store.roles)
    {reserved : List String} (issuer : Issuer reserved) :
    (byName issuer).after { store with roles := staying declared store.roles }
        (((pins declared store.roles).map fun pin => pass.updateRole pin.1 pin.2).map (·.operation)) =
      { store with roles := (staying declared store.roles).map (settled (moving declared store.roles)) } :=
  after_updatePins issuer pass _ (staying_ids_nodup observes) (staying_names_nodup observes) (pins_kept observes)
    (pins_ids_nodup declares)

theorem pass_rest (pass : Pass) (abort : Bool) (declares : Declared declared)
    (observes : Observed store.roles) (issuer : Issuer (declared.map (·.id))) :
    Rest (declared.map (·.id)) (keepers declared store.roles) (openings declared store.roles)
      { store with roles := (staying declared store.roles).map (settled (moving declared store.roles)) }
      ((byName issuer).pass pass abort declared store) := by
  have rest := after_keepOrCreate issuer pass
    { store with roles := (staying declared store.roles).map (settled (moving declared store.roles)) }
    (others_names_nodup declares observes) fun role member stays => taken_of_keeps observes member stays
  rw [pass_eq, pass.rolePlan_eq declares observes, List.map_append, List.map_append, after_append,
    after_append, after_of_applyAll (after_deletions pass declared observes issuer),
    after_moves pass declares observes issuer]
  exact rest

theorem pass_names (pass : Pass) (abort : Bool) (declared : List Role) {reserved : List String}
    (issuer : Issuer reserved) (names : (store.roles.map (·.name)).Nodup) :
    (((byName issuer).pass pass abort declared store).roles.map (·.name)).Nodup := by
  rw [pass_eq]
  exact after_invariant byName_names names _

theorem pass_ids (pass : Pass) (abort : Bool) (declared : List Role) {reserved : List String}
    (issuer : Issuer reserved) (ids : store.ids.Nodup) : ((byName issuer).pass pass abort declared store).ids.Nodup := by
  rw [pass_eq]
  exact (after_precedes byName_precedes store _).distinct ids

-- Whatever is kept behind a pass was kept before it or is new, and then under an id that is not declared.
theorem pass_roles (pass : Pass) (abort : Bool) (declares : Declared declared) (observes : Observed store.roles)
    (issuer : Issuer (declared.map (·.id))) :
    ∃ created, ((byName issuer).pass pass abort declared store).roles =
        (staying declared store.roles).map (become declared store.roles) ++ created ∧
      created.map bare = (openings declared store.roles).map bare ∧
      ∀ new ∈ created, new.id ∉ declared.map (·.id) := by
  obtain ⟨created, roles, bare, fresh⟩ := pass_rest pass abort declares observes issuer
  rw [List.map_map] at roles
  exact ⟨created, roles, bare, fresh⟩

theorem pass_advances (pass : Pass) (abort : Bool) (declares : Declared declared) (observes : Observed store.roles)
    (known : ∀ role ∈ declared, role.hasId → role.id ∈ store.ids) (issuer : Issuer (declared.map (·.id))) :
    Advance declared store.roles ((byName issuer).pass pass abort declared store).roles := by
  have ids := pass_ids pass abort declared issuer observes.ids
  have names := pass_names pass abort declared issuer observes.names
  obtain ⟨created, roles, bare, fresh⟩ := pass_roles pass abort declares observes issuer
  -- From here on it counts what is kept, and no more how it has come about.
  generalize ((byName issuer).pass pass abort declared store) = after at ids names roles ⊢
  have stays : ∀ old ∈ staying declared store.roles, become declared store.roles old ∈ after.roles := by
    intro old member
    rw [roles]
    exact List.mem_append_left _ (List.mem_map.mpr ⟨old, member, rfl⟩)
  have comes : ∀ new ∈ created, ∃ role ∈ declared, role.hasId = false ∧ new.bare = role.bare := by
    intro new member
    obtain ⟨role, opening, same⟩ := exists_of_bare bare member
    obtain ⟨isDeclared, unnumbered, _⟩ := (mem_openings observes known).mp opening
    exact ⟨role, isDeclared, unnumbered, same⟩
  have source : ∀ kept ∈ after.roles,
      (∃ old ∈ store.roles, ∃ heir, Inherits declared heir old ∧ become declared store.roles old = kept) ∨
        kept ∈ created := by
    intro kept member
    rw [roles] at member
    rcases List.mem_append.mp member with old | new
    · obtain ⟨old, oldStays, same⟩ := List.mem_map.mp old
      obtain ⟨oldMember, heir, inherits⟩ := (mem_staying observes).mp oldStays
      exact .inl ⟨old, oldMember, heir, inherits, same⟩
    · exact .inr new
  constructor
  · refine ⟨fun kept member => ?_, ids, names⟩
    rcases source kept member with ⟨old, oldMember, _, _, rfl⟩ | new
    · exact hasId_of_same_id (become_id _ _ _) (observes.identified old oldMember)
    · obtain ⟨role, isDeclared, unnumbered, _⟩ := comes kept new
      rw [hasId_iff, ← hasId_eq_false_iff.mp unnumbered]
      exact fun same => fresh kept new (List.mem_map.mpr ⟨role, isDeclared, same.symm⟩)
  · intro role old pin moves
    have member := stays old (pin_stays observes pin)
    rwa [become_moving declares observes pin moves] at member
  · intro role old pin refused
    have member := stays old (pin_stays observes pin)
    rwa [become_refused declares observes pin refused] at member
  · intro kept member
    rcases source kept member with ⟨old, oldMember, heir, inherits, rfl⟩ | new
    · exact (become_declared declares observes oldMember inherits).imp_right fun named => ⟨heir, inherits.1, named⟩
    · obtain ⟨role, isDeclared, unnumbered, same⟩ := comes kept new
      exact .inr ⟨role, isDeclared, unnumbered, name_of_bare same⟩
  · intro role isDeclared unnumbered
    rw [roles]
    exact made_or_kept_off declares observes known bare isDeclared unnumbered

end Keeper
end RealmPlan
