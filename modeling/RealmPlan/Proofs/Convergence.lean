import RealmPlan.Proofs.Store.ById

namespace RealmPlan
open Role Role.Change

variable {declared observed : List Role} {reserved : List String}

-- What a store keeps once the declared roles are in force: every one of them, and none but them.
-- Who goes on as an observed role has the id of that role, and all others have a new one.
structure InForce (reserved : List String) (declared observed stored : List Role) : Prop where
  names : (stored.map (·.name)).Nodup
  only : ∀ kept ∈ stored, ∃ role ∈ declared, kept.bare = role.bare
  kept : ∀ role, ∀ old ∈ observed, Inherits declared role old → role.under old.id ∈ stored
  created : ∀ role ∈ declared, (∀ old ∈ observed, ¬ Inherits declared role old) →
    ∃ id, id ∉ reserved ∧ role.under id ∈ stored

namespace Role.Change
variable {role old : Role} {chosen : List Role}

-- Of the declared roles that are put in place each finds the role that has its id and no other.
theorem settled_of_chosen (declares : Declared declared) (chosenDeclared : chosen ⊆ declared) (numbered : role.hasId)
    (isChosen : role ∈ chosen) (same : old.id = role.id) : settled chosen old = role := by
  refine settled_of_pinned (fun other otherChosen sameId => ?_) isChosen same.symm
  exact declares.same_id (chosenDeclared otherChosen) (chosenDeclared isChosen) numbered sameId

theorem settled_of_not_chosen (declares : Declared declared) (chosenDeclared : chosen ⊆ declared)
    (isDeclared : role ∈ declared) (numbered : role.hasId) (notChosen : role ∉ chosen) (same : old.id = role.id) :
    settled chosen old = old := by
  refine settled_of_unpinned fun other otherChosen sameId => notChosen ?_
  rwa [← declares.same_id (chosenDeclared otherChosen) isDeclared numbered (sameId.trans same)]

theorem settled_of_not_pinned (chosenDeclared : chosen ⊆ declared) (unpinned : ¬ Pinned declared old) :
    settled chosen old = old :=
  settled_of_unpinned fun other otherChosen sameId => unpinned ⟨other, chosenDeclared otherChosen, sameId⟩

-- What is kept by its name has no id in the declaration, nor is it pinned where it is reported.
theorem refreshed_of_numbered (declares : Declared declared) (observes : Observed observed)
    (isDeclared : role ∈ declared) (numbered : role.hasId) : refreshed (keepers declared observed) role = role := by
  apply refreshed_of_unnamed
  intro other keeper sameName
  obtain ⟨unnumbered, _, _, otherDeclared, _⟩ := (mem_keepers observes).mp keeper
  rw [declares.same_name otherDeclared isDeclared sameName, numbered] at unnumbered
  cases unnumbered

theorem refreshed_of_pinned (observes : Observed observed) (member : old ∈ observed) (pinned : Pinned declared old) :
    refreshed (keepers declared observed) old = old := by
  apply refreshed_of_unnamed
  intro other keeper sameName
  obtain ⟨unnumbered, left, leftMember, inherits⟩ := (mem_keepers observes).mp keeper
  obtain ⟨_, leftName, unpinned⟩ := (inherits_unnumbered unnumbered).mp inherits
  rw [observes.same_name leftMember member (leftName.trans sameName)] at unpinned
  exact unpinned pinned

theorem refreshed_of_inherits (declares : Declared declared) (observes : Observed observed) (member : old ∈ observed)
    (unnumbered : role.hasId = false) (inherits : Inherits declared role old) :
    refreshed (keepers declared observed) old = role.under old.id := by
  obtain ⟨isDeclared, same, _⟩ := (inherits_unnumbered unnumbered).mp inherits
  refine refreshed_of_named (fun other keeper sameName => ?_)
    ((mem_keepers observes).mpr ⟨unnumbered, old, member, inherits⟩) same.symm
  obtain ⟨_, _, _, otherDeclared, _⟩ := (mem_keepers observes).mp keeper
  exact declares.same_name otherDeclared isDeclared sameName

def pinning (declared observed : List Role) : List Role := (pins declared observed).map (·.1)

theorem mem_pinning (observes : Observed observed) :
    role ∈ pinning declared observed ↔
      role ∈ declared ∧ role.hasId ∧ ∃ old ∈ observed, old.id = role.id := by
  simp only [pinning, List.mem_map, Prod.exists, mem_pins observes]
  constructor
  · intro pinned
    obtain ⟨_, old, ⟨declares, numbered, member, same⟩, rfl⟩ := pinned
    exact ⟨declares, numbered, old, member, same⟩
  · intro known
    obtain ⟨declares, numbered, old, member, same⟩ := known
    exact ⟨role, old, ⟨declares, numbered, member, same⟩, rfl⟩

theorem pinning_subset (observes : Observed observed) : pinning declared observed ⊆ declared :=
  fun _ member => ((mem_pinning observes).mp member).1

-- First the pinned roles take their places, then the others do, and neither disturbs the other.
theorem succession (declares : Declared declared) (observes : Observed observed) (member : old ∈ observed)
    (inherits : Inherits declared role old) :
    refreshed (keepers declared observed) (settled (pinning declared observed) old) = role.under old.id := by
  cases numbered : role.hasId with
  | true =>
    obtain ⟨isDeclared, same⟩ := (inherits_numbered numbered).mp inherits
    have isPinning := (mem_pinning observes).mpr ⟨isDeclared, numbered, old, member, same⟩
    rw [settled_of_chosen declares (pinning_subset observes) numbered isPinning same,
      refreshed_of_numbered declares observes isDeclared numbered, same, under_self]
  | false =>
    obtain ⟨_, _, unpinned⟩ := (inherits_unnumbered numbered).mp inherits
    rw [settled_of_not_pinned (pinning_subset observes) unpinned,
      refreshed_of_inherits declares observes member numbered inherits]

theorem settled_name (declares : Declared declared) (observes : Observed observed) (member : old ∈ observed)
    (inherits : Inherits declared role old) :
    (settled (pinning declared observed) old).name = role.name := by
  have final := congrArg Role.name (succession declares observes member inherits)
  rwa [refreshed_name, under_name] at final

-- The observed roles that no deletion takes away.
def staying (declared observed : List Role) : List Role := observed.filter (· ∉ surplus declared observed)

theorem mem_staying (observes : Observed observed) :
    old ∈ staying declared observed ↔ old ∈ observed ∧ ∃ role, Inherits declared role old := by
  simp only [staying, List.mem_filter, decide_eq_true_eq]
  refine and_congr_right fun member => ⟨exists_heir observes member, ?_⟩
  intro heir
  obtain ⟨role, inherits⟩ := heir
  exact inherits.not_surplus observes

theorem staying_ids_nodup (observes : Observed observed) : ((staying declared observed).map (·.id)).Nodup :=
  (List.filter_sublist.map _).nodup observes.ids

theorem pin_stays (observes : Observed observed) (pin : (role, old) ∈ pins declared observed) :
    old ∈ staying declared observed := by
  obtain ⟨isDeclared, numbered, member, same⟩ := (mem_pins observes).mp pin
  exact (mem_staying observes).mpr ⟨member, role, (inherits_numbered numbered).mpr ⟨isDeclared, same⟩⟩

-- Once the pinned roles have taken their places, all names are names of declared roles.
theorem settled_names_nodup (declares : Declared declared) (observes : Observed observed) :
    (((staying declared observed).map (settled (pinning declared observed))).map (·.name)).Nodup := by
  rw [List.map_map]
  apply (observes.nodup.filter _).map_on
  intro a aStays b bStays same
  obtain ⟨aMember, aHeir, fromA⟩ := (mem_staying observes).mp aStays
  obtain ⟨bMember, bHeir, fromB⟩ := (mem_staying observes).mp bStays
  have names : aHeir.name = bHeir.name :=
    (settled_name declares observes aMember fromA).symm.trans
      (same.trans (settled_name declares observes bMember fromB))
  rw [declares.same_name fromA.1 fromB.1 names] at fromA
  exact fromA.one_predecessor observes aMember bMember fromB

theorem mem_settled_names (declares : Declared declared) (observes : Observed observed)
    (roleDeclared : role ∈ declared) :
    role.name ∈ ((staying declared observed).map (settled (pinning declared observed))).map (·.name) ↔
      ∃ old ∈ observed, Inherits declared role old := by
  simp only [List.map_map, List.mem_map, Function.comp_apply, mem_staying observes]
  constructor
  · intro named
    obtain ⟨old, ⟨member, heir, inherits⟩, same⟩ := named
    have named := settled_name declares observes member inherits
    rw [declares.same_name inherits.1 roleDeclared (named.symm.trans same)] at inherits
    exact ⟨old, member, inherits⟩
  · intro heir
    obtain ⟨old, member, inherits⟩ := heir
    exact ⟨old, ⟨member, role, inherits⟩, settled_name declares observes member inherits⟩

end Role.Change

section
variable {before after : Store} {created : List Role}

theorem created_names (bare : created.map bare = (creations declared observed).map bare) :
    created.map (·.name) = (creations declared observed).map (·.name) := by
  rw [← bare_names, bare, bare_names]

theorem created_source (observes : Observed observed) (bare : created.map bare = (creations declared observed).map bare)
    {new : Role} (member : new ∈ created) :
    ∃ role ∈ declared, new.bare = role.bare ∧ ∀ old ∈ observed, ¬ Inherits declared role old := by
  obtain ⟨role, creation, same⟩ := exists_of_bare bare member
  obtain ⟨isDeclared, noHeir⟩ := (mem_creations observes).mp creation
  exact ⟨role, isDeclared, same, noHeir⟩

-- Whoever is created has a name that no role in place has.
theorem names_of_rest (declares : Declared declared) (observes : Observed observed)
    (bare : created.map bare = (creations declared observed).map bare) :
    ((((staying declared observed).map (settled (pinning declared observed))).map
      (refreshed (keepers declared observed)) ++ created).map (·.name)).Nodup := by
  have keptNames : (((staying declared observed).map (settled (pinning declared observed))).map
        (refreshed (keepers declared observed))).map (·.name) =
      ((staying declared observed).map (settled (pinning declared observed))).map (·.name) := by
    simp
  have createdOnce : (created.map (·.name)).Nodup := by
    rw [created_names bare]
    exact (List.filter_sublist.map _).nodup (others_names_nodup declares observes)
  rw [List.map_append, keptNames]
  refine List.nodup_append.mpr ⟨settled_names_nodup declares observes, createdOnce, fun name kept other new same => ?_⟩
  obtain ⟨role, member, rfl⟩ := List.mem_map.mp new
  obtain ⟨declaration, isDeclared, bareSame, noHeir⟩ := created_source observes bare member
  rw [same, name_of_bare bareSame, mem_settled_names declares observes isDeclared] at kept
  obtain ⟨old, oldMember, inherits⟩ := kept
  exact noHeir old oldMember inherits

-- A store behind all calls of a plan has the declared roles in force.
theorem inForce_of_rest (declares : Declared declared) (observes : Observed observed)
    (settles : before.roles = (staying declared observed).map (settled (pinning declared observed)))
    (rest : Keeper.Rest reserved (keepers declared observed) (creations declared observed) before after) :
    InForce reserved declared observed after.roles := by
  obtain ⟨created, roles, bare, fresh⟩ := rest
  rw [settles] at roles
  constructor
  · rw [roles]
    exact names_of_rest declares observes bare
  · intro kept member
    rw [roles, List.map_map, List.mem_append, List.mem_map] at member
    rcases member with ⟨old, stays, rfl⟩ | new
    · obtain ⟨oldMember, heir, inherits⟩ := (mem_staying observes).mp stays
      exact ⟨heir, inherits.1, by rw [Function.comp_apply, succession declares observes oldMember inherits, under_bare]⟩
    · obtain ⟨declaration, isDeclared, same, _⟩ := created_source observes bare new
      exact ⟨declaration, isDeclared, same⟩
  · intro role old oldMember inherits
    rw [roles, List.map_map, List.mem_append, List.mem_map]
    exact .inl ⟨old, (mem_staying observes).mpr ⟨oldMember, role, inherits⟩,
      succession declares observes oldMember inherits⟩
  · intro role isDeclared noHeir
    have creation := (mem_creations observes).mpr ⟨isDeclared, noHeir⟩
    obtain ⟨new, member, same⟩ := exists_of_bare bare.symm creation
    refine ⟨new.id, fresh new member, ?_⟩
    have identical : role.under new.id = new := eq_of_bare rfl (by rw [under_bare, same])
    rw [identical, roles]
    exact List.mem_append_right _ member

end

-- No call of a plan is refused, and behind the last one the declared roles are in force.
theorem rolePlan_applies (pass : Pass) (declares : Declared declared) (observes : Observed observed)
    (issuer : Issuer reserved) :
    ∃ final, (Keeper.byId issuer).applyAll { roles := observed }
        ((pass.rolePlan declared observed).map (·.operation)) = some final ∧
      InForce reserved declared observed final.roles := by
  let settledStore : Store :=
    { roles := (staying declared observed).map (settled (pinning declared observed)) }
  have pinned : ∀ pin ∈ pins declared observed,
      pin.2.hasId ∧ pin.2.id = pin.1.id ∧ pin.2.id ∈ (staying declared observed).map (·.id) := by
    intro pin isPin
    obtain ⟨_, _, member, same⟩ := (mem_pins observes).mp isPin
    exact ⟨observes.identified pin.2 member, same, List.mem_map_of_mem (pin_stays observes isPin)⟩
  have present : ∀ role ∈ others declared observed, keeps declared observed role = true →
      role.name ∈ settledStore.roles.map (·.name) := by
    intro role member stays
    obtain ⟨_, heir⟩ := (mem_keepers observes).mp (List.mem_filter.mpr ⟨member, stays⟩)
    exact (mem_settled_names declares observes ((mem_others observes).mp member).1).mpr heir
  have absent : ∀ role ∈ others declared observed, keeps declared observed role = false →
      role.name ∉ settledStore.roles.map (·.name) := by
    intro role member goes
    obtain ⟨roleDeclared, noHeir⟩ := (mem_creations observes).mp (List.mem_filter.mpr ⟨member, by simp [goes]⟩)
    rw [mem_settled_names declares observes roleDeclared]
    intro heir
    obtain ⟨old, oldMember, inherits⟩ := heir
    exact noHeir old oldMember inherits
  have deleted : (Keeper.byId issuer).applyAll { roles := observed }
        (((surplus declared observed).map pass.deleteRole).map (·.operation)) =
      some { roles := staying declared observed } :=
    Keeper.applyAll_deleteRole pass (Keeper.byId_deleteRole issuer pass) { roles := observed } observes.ids
      surplus_subset (surplus_nodup observes)
  have updated := Keeper.applyAll_updatePins issuer pass { roles := staying declared observed }
    (staying_ids_nodup observes) pinned (pins_ids_nodup declares)
  obtain ⟨final, applied, rest⟩ := Keeper.applyAll_keepOrCreate issuer pass settledStore
    (settled_names_nodup declares observes) (others_names_nodup declares observes) present absent
  refine ⟨final, ?_, inForce_of_rest declares observes rfl rest⟩
  rw [pass.rolePlan_eq declares observes, List.map_append, List.map_append, Keeper.applyAll_append,
    Keeper.applyAll_append, deleted, Option.bind_some]
  exact (congrArg (Option.bind · _) updated).trans applied

theorem InForce.bare_perm {stored : List Role} (declares : Declared declared)
    (inForce : InForce reserved declared observed stored) : (stored.map bare).Perm (declared.map bare) := by
  apply Role.bare_perm inForce.names declares.names inForce.only
  intro role isDeclared
  by_cases heir : ∃ old ∈ observed, Inherits declared role old
  · obtain ⟨old, oldMember, inherits⟩ := heir
    exact ⟨_, inForce.kept role old oldMember inherits, under_bare _ _⟩
  · push Not at heir
    obtain ⟨id, _, member⟩ := inForce.created role isDeclared heir
    exact ⟨_, member, under_bare _ _⟩

theorem InForce.pinned {stored : List Role} (observes : Observed observed)
    (inForce : InForce reserved declared observed stored) {role : Role} (isDeclared : role ∈ declared)
    (known : role.id ∈ observed.map (·.id)) : role ∈ stored := by
  obtain ⟨old, oldMember, same⟩ := List.mem_map.mp known
  have numbered := hasId_of_same_id same.symm (observes.identified old oldMember)
  have inherits : Inherits declared role old := (inherits_numbered numbered).mpr ⟨isDeclared, same⟩
  have member := inForce.kept role old oldMember inherits
  rwa [same, under_self] at member

-- Applied to what it was made for, a plan leaves exactly the declared roles: those with an observed
-- id under this id, those that go on as an observed role under its id, and all others under a new one.
theorem rolePlan_converges (pass : Pass) (declares : Declared declared) (observes : Observed observed)
    (issuer : Issuer (observed.map (·.id) ++ declared.map (·.id))) :
    ∃ final, (Keeper.byId issuer).applyAll { roles := observed }
        ((pass.rolePlan declared observed).map (·.operation)) = some final ∧
      (final.roles.map bare).Perm (declared.map bare) ∧
      (∀ role ∈ declared, role.id ∈ observed.map (·.id) → role ∈ final.roles) ∧
      (∀ role ∈ declared, ∀ old ∈ observed, Inherits declared role old → role.under old.id ∈ final.roles) ∧
      ∀ role ∈ declared, (∀ old ∈ observed, ¬ Inherits declared role old) →
        ∃ id, id ∉ observed.map (·.id) ∧ id ∉ declared.map (·.id) ∧ role.under id ∈ final.roles := by
  obtain ⟨final, applied, inForce⟩ := rolePlan_applies pass declares observes issuer
  refine ⟨final, applied, inForce.bare_perm declares, fun role isDeclared => inForce.pinned observes isDeclared,
    fun role _ => inForce.kept role, fun role isDeclared noHeir => ?_⟩
  obtain ⟨id, fresh, member⟩ := inForce.created role isDeclared noHeir
  rw [List.mem_append, not_or] at fresh
  exact ⟨id, fresh.1, fresh.2, member⟩

-- A role leaves its name to another, one that is known under another id comes, and one goes.
theorem rolePlan_converges_reused_name :
    let declared := [Role.named "reader", Role.withId "1" "viewer", Role.withId "9" "writer"]
    let observed := [Role.withId "1" "reader", Role.withId "2" "writer"]
    let pass := Pass.of {} default
    Declared declared ∧ Observed observed ∧
      ∃ final, (Keeper.byId (Issuer.longer (observed.map (·.id) ++ declared.map (·.id)))).applyAll
          { roles := observed } ((pass.rolePlan declared observed).map (·.operation)) = some final ∧
        (final.roles.map bare).Perm (declared.map bare) ∧ Role.withId "1" "viewer" ∈ final.roles := by
  have declares : Declared [Role.named "reader", Role.withId "1" "viewer", Role.withId "9" "writer"] :=
    ⟨by decide, by decide⟩
  have observes : Observed [Role.withId "1" "reader", Role.withId "2" "writer"] :=
    ⟨by decide, by decide, by decide⟩
  obtain ⟨final, applied, exact, pinned, _⟩ :=
    rolePlan_converges (Pass.of {} default) declares observes (Issuer.longer _)
  exact ⟨declares, observes, final, applied, exact, pinned _ (by decide) (by decide)⟩

end RealmPlan
