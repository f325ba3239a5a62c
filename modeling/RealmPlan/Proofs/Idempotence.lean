import RealmPlan.Proofs.Convergence

namespace RealmPlan
open Role Role.Change

-- An id that a realm must not choose: none at all, one that it reports, and one that is declared.
def reservedIds (declared observed : List Role) : List String :=
  "" :: (observed.map (·.id) ++ declared.map (·.id))

-- Declared under an id that the realm does not report.
def Role.stale (observed : List Role) (role : Role) : Bool :=
  role.hasId && decide (role.id ∉ observed.map (·.id))

-- What a plan leaves is again what a realm reports. New ids are no declared ones, so a declared id
-- is kept only if it was reported before.
structure Aftermath (declared observed stored : List Role) : Prop where
  inForce : InForce (reservedIds declared observed) declared observed stored
  observes : Observed stored
  origin : ∀ kept ∈ stored, Pinned declared kept → kept.id ∈ observed.map (·.id)

theorem rolePlan_aftermath (pass : Pass) {declared observed : List Role} (declares : Declared declared)
    (observes : Observed observed) (issuer : Issuer (reservedIds declared observed)) :
    ∃ final, (Keeper.byId issuer).applyAll { roles := observed }
        ((pass.rolePlan declared observed).map (·.operation)) = some final ∧
      Aftermath declared observed final.roles := by
  obtain ⟨final, applied, inForce⟩ := rolePlan_applies pass declares observes issuer
  have precedes : Store.Precedes (reservedIds declared observed) { roles := observed } final := by
    rw [← Keeper.after_of_applyAll applied]
    exact Keeper.after_precedes Keeper.byId_precedes _ _
  have origin := fun kept (member : kept ∈ final.roles) => precedes.origin kept.id (List.mem_map_of_mem member)
  refine ⟨final, applied, inForce, ⟨fun kept member => ?_, precedes.distinct observes.ids, inForce.names⟩,
    fun kept member pinned => ?_⟩
  · rcases origin kept member with reported | new
    · obtain ⟨old, oldMember, same⟩ := List.mem_map.mp reported
      exact hasId_of_same_id same.symm (observes.identified old oldMember)
    · exact hasId_iff.mpr (List.ne_of_not_mem_cons new)
  · rcases origin kept member with reported | new
    · exact reported
    · obtain ⟨pin, pinDeclared, same⟩ := pinned
      have reserved : kept.id ∈ declared.map (·.id) := List.mem_map.mpr ⟨pin, pinDeclared, same⟩
      exact absurd (List.mem_cons_of_mem _ (List.mem_append_right _ reserved)) new

namespace Aftermath
variable {declared observed stored : List Role} {role kept : Role}

theorem stale_iff : role.stale observed = true ↔ role.hasId = true ∧ role.id ∉ observed.map (·.id) := by
  simp [Role.stale]

theorem pin_eq (aftermath : Aftermath declared observed stored) (observes : Observed observed)
    (pin : (role, kept) ∈ pins declared stored) : kept = role ∧ role.stale observed = false := by
  obtain ⟨isDeclared, numbered, member, same⟩ := (mem_pins aftermath.observes).mp pin
  have reported := aftermath.origin kept member ⟨role, isDeclared, same.symm⟩
  rw [same] at reported
  have roleMember := aftermath.inForce.pinned observes isDeclared reported
  refine ⟨aftermath.observes.same_id member roleMember same, ?_⟩
  rw [← Bool.not_eq_true, stale_iff]
  exact fun stale => stale.2 reported

-- Whoever is not stale is met again, as what it was made.
theorem inherits_again (aftermath : Aftermath declared observed stored) (observes : Observed observed)
    (isDeclared : role ∈ declared) (lasting : role.stale observed = false) :
    ∃ kept ∈ stored, kept.name = role.name ∧ Inherits declared role kept := by
  cases numbered : role.hasId with
  | true =>
    have reported : role.id ∈ observed.map (·.id) := by
      rw [← Bool.not_eq_true, stale_iff, not_and, not_not] at lasting
      exact lasting numbered
    exact ⟨role, aftermath.inForce.pinned observes isDeclared reported, rfl,
      (inherits_numbered numbered).mpr ⟨isDeclared, rfl⟩⟩
  | false =>
    by_cases heir : ∃ old ∈ observed, Inherits declared role old
    · obtain ⟨old, oldMember, inherits⟩ := heir
      obtain ⟨_, _, unpinned⟩ := (inherits_unnumbered numbered).mp inherits
      exact ⟨role.under old.id, aftermath.inForce.kept role old oldMember inherits, rfl,
        (inherits_unnumbered numbered).mpr ⟨isDeclared, rfl, unpinned⟩⟩
    · push Not at heir
      obtain ⟨id, fresh, member⟩ := aftermath.inForce.created role isDeclared heir
      have unpinned : ¬ Pinned declared (role.under id) := by
        intro pinned
        obtain ⟨pin, pinDeclared, same⟩ := pinned
        have reserved : id ∈ declared.map (·.id) := List.mem_map.mpr ⟨pin, pinDeclared, same⟩
        exact fresh (List.mem_cons_of_mem _ (List.mem_append_right _ reserved))
      exact ⟨role.under id, member, rfl, (inherits_unnumbered numbered).mpr ⟨isDeclared, rfl, unpinned⟩⟩

-- Whoever is stale has been made under an id that is not the declared one, and is not met again.
theorem stale_not_inherits (aftermath : Aftermath declared observed stored) (stale : role.stale observed = true)
    (member : kept ∈ stored) : ¬ Inherits declared role kept := by
  obtain ⟨numbered, unknown⟩ := stale_iff.mp stale
  intro inherits
  obtain ⟨isDeclared, claim⟩ := (inherits_numbered numbered).mp inherits
  have reported := aftermath.origin kept member ⟨role, isDeclared, claim.symm⟩
  rw [claim] at reported
  exact unknown reported

theorem mem_surplus_again (aftermath : Aftermath declared observed stored) (declares : Declared declared)
    (observes : Observed observed) (member : kept ∈ stored) :
    kept ∈ surplus declared stored ↔ ∃ role ∈ declared, role.stale observed = true ∧ role.name = kept.name := by
  obtain ⟨role, isDeclared, bare⟩ := aftermath.inForce.only kept member
  have named := name_of_bare bare
  constructor
  · intro goes
    refine ⟨role, isDeclared, ?_, named.symm⟩
    rw [← Bool.not_eq_false]
    intro lasting
    obtain ⟨again, againMember, sameName, inherits⟩ := aftermath.inherits_again observes isDeclared lasting
    rw [aftermath.observes.same_name againMember member (sameName.trans named.symm)] at inherits
    exact inherits.not_surplus aftermath.observes goes
  · intro named
    obtain ⟨other, otherDeclared, stale, sameName⟩ := named
    by_contra stays
    obtain ⟨heir, inherits⟩ := exists_heir aftermath.observes member stays
    have lasting : heir.stale observed = false := by
      rw [← Bool.not_eq_true]
      exact fun heirStale => aftermath.stale_not_inherits heirStale member inherits
    obtain ⟨again, againMember, againName, againInherits⟩ :=
      aftermath.inherits_again observes inherits.1 lasting
    have one := inherits.one_predecessor aftermath.observes member againMember againInherits
    rw [one, againName] at sameName
    rw [declares.same_name otherDeclared inherits.1 sameName, lasting] at stale
    cases stale

theorem mem_creations_again (aftermath : Aftermath declared observed stored) (observes : Observed observed) :
    role ∈ creations declared stored ↔
      role ∈ declared.filter (stale observed) := by
  rw [mem_creations aftermath.observes, List.mem_filter]
  refine and_congr_right fun isDeclared => ⟨fun noHeir => ?_, fun stale kept member => ?_⟩
  · rw [← Bool.not_eq_false]
    intro lasting
    obtain ⟨kept, member, _, inherits⟩ := aftermath.inherits_again observes isDeclared lasting
    exact noHeir kept member inherits
  · exact aftermath.stale_not_inherits stale member

theorem mem_updates_again (aftermath : Aftermath declared observed stored) (observes : Observed observed) :
    role ∈ pinning declared stored ++ keepers declared stored ↔
      role ∈ declared.filter (!stale observed ·) := by
  rw [List.mem_append, mem_pinning aftermath.observes, mem_keepers aftermath.observes, List.mem_filter,
    Bool.not_eq_true']
  constructor
  · intro updated
    rcases updated with ⟨isDeclared, numbered, kept, member, same⟩ | ⟨unnumbered, kept, _, inherits⟩
    · have pin := (mem_pins aftermath.observes).mpr ⟨isDeclared, numbered, member, same⟩
      exact ⟨isDeclared, (aftermath.pin_eq observes pin).2⟩
    · exact ⟨inherits.1, by simp [Role.stale, unnumbered]⟩
  · intro lasts
    obtain ⟨isDeclared, lasting⟩ := lasts
    obtain ⟨kept, member, _, inherits⟩ := aftermath.inherits_again observes isDeclared lasting
    cases numbered : role.hasId with
    | true =>
      obtain ⟨_, same⟩ := (inherits_numbered numbered).mp inherits
      exact .inl ⟨isDeclared, rfl, kept, member, same⟩
    | false => exact .inr ⟨rfl, kept, member, inherits⟩

-- The kept roles that a stale declaration does not recognise as its own.
def disowned (declared observed stored : List Role) : List Role :=
  stored.filter fun kept => declared.any fun role => role.stale observed && role.name == kept.name

theorem surplus_eq_disowned (aftermath : Aftermath declared observed stored) (declares : Declared declared)
    (observes : Observed observed) : surplus declared stored = disowned declared observed stored := by
  refine List.filter_congr fun kept member => Bool.eq_iff_iff.mpr ?_
  have again := aftermath.mem_surplus_again declares observes member
  rw [surplus, List.mem_filter, and_iff_right member] at again
  simp [again]

-- There is one of them for every stale declaration.
theorem disowned_perm (aftermath : Aftermath declared observed stored) (declares : Declared declared) :
    ((disowned declared observed stored).map bare).Perm ((declared.filter (stale observed)).map bare) := by
  let named : Role → Bool := fun kept => declared.any fun role => role.stale observed && role.name == kept.name
  have staleNamed : declared.filter named = declared.filter (stale observed) := by
    refine List.filter_congr fun role isDeclared => Bool.eq_iff_iff.mpr ?_
    simp only [named, List.any_eq_true, Bool.and_eq_true, beq_iff_eq]
    constructor
    · intro named
      obtain ⟨other, otherDeclared, stale, sameName⟩ := named
      rwa [← declares.same_name otherDeclared isDeclared sameName]
    · exact fun stale => ⟨role, isDeclared, stale, rfl⟩
  have filtered := (aftermath.inForce.bare_perm declares).filter named
  rw [List.filter_map, List.filter_map] at filtered
  exact filtered.trans (.of_eq (congrArg (List.map bare) staleNamed))

theorem updates_perm (aftermath : Aftermath declared observed stored) (declares : Declared declared)
    (observes : Observed observed) :
    (pinning declared stored ++ keepers declared stored).Perm
      (declared.filter (!stale observed ·)) := by
  have pinningOnce : (pinning declared stored).Nodup := by
    apply List.Nodup.of_map (·.id)
    rw [pinning, List.map_map]
    exact pins_ids_nodup declares
  have once : (pinning declared stored ++ keepers declared stored).Nodup := by
    refine List.nodup_append.mpr ⟨pinningOnce, keepers_nodup declares, ?_⟩
    intro role pin other keeper same
    subst same
    have numbered := ((mem_pinning aftermath.observes).mp pin).2.1
    rw [((mem_keepers aftermath.observes).mp keeper).1] at numbered
    cases numbered
  exact (List.perm_ext_iff_of_nodup once (declares.nodup.filter _)).mpr
    fun role => aftermath.mem_updates_again observes

theorem rolePlan_perm (aftermath : Aftermath declared observed stored) (pass : Pass)
    (declares : Declared declared) (observes : Observed observed) :
    (pass.rolePlan declared stored).Perm
      ((disowned declared observed stored).map pass.deleteRole ++
        (declared.filter (!stale observed ·)).map (fun role => pass.updateRole role role) ++
        (declared.filter (stale observed)).map pass.createRole) := by
  have creations := (List.perm_ext_iff_of_nodup (creations_nodup declares) (declares.nodup.filter _)).mpr fun role => aftermath.mem_creations_again observes
  have pinUpdates : (pins declared stored).map (fun pin => pass.updateRole pin.1 pin.2) =
      (pinning declared stored).map fun role => pass.updateRole role role := by
    rw [pinning, List.map_map]
    apply List.map_congr_left
    intro pin member
    have same : pin.2 = pin.1 := (aftermath.pin_eq observes member).1
    simp [same]
  have updates := (aftermath.updates_perm declares observes).map fun role => pass.updateRole role role
  rw [List.map_append] at updates
  rw [pass.rolePlan_eq declares aftermath.observes, aftermath.surplus_eq_disowned declares observes, pinUpdates]
  apply (List.Perm.append_left _ (pass.others_perm declared stored)).trans
  simp only [List.append_assoc]
  apply List.Perm.append_left
  simp only [← List.append_assoc]
  exact updates.append (creations.map _)

theorem quiet_iff (aftermath : Aftermath declared observed stored) (pass : Pass)
    (declares : Declared declared) (observes : Observed observed) :
    (∀ action ∈ pass.rolePlan declared stored, action.kind = .updateRole ∧ action.isRename = false) ↔
      ∀ role ∈ declared, role.hasId → role.id ∈ observed.map (·.id) := by
  have planned := fun action => (aftermath.rolePlan_perm pass declares observes).mem_iff (a := action)
  constructor
  · intro quiet role isDeclared numbered
    by_contra unknown
    have stale := List.mem_filter.mpr ⟨isDeclared, stale_iff.mpr ⟨numbered, unknown⟩⟩
    have creation := quiet (pass.createRole role)
      ((planned _).mpr (List.mem_append_right _ (List.mem_map_of_mem stale)))
    cases creation.1
  · intro known action member
    have lasting : ∀ role ∈ declared, role.stale observed = false := by
      intro role isDeclared
      rw [← Bool.not_eq_true, stale_iff, not_and, not_not]
      exact known role isDeclared
    simp only [planned, List.mem_append, List.mem_map, List.mem_filter] at member
    obtain (⟨kept, goes, rfl⟩ | ⟨role, _, rfl⟩) | ⟨role, ⟨isDeclared, stale⟩, rfl⟩ := member
    · obtain ⟨role, isDeclared, stale⟩ := List.any_eq_true.mp (List.mem_filter.mp goes).2
      simp [lasting role isDeclared] at stale
    · exact ⟨rfl, by simp [Pass.updateRole, Action.isRename, Operation.isRename]⟩
    · rw [lasting role isDeclared] at stale
      cases stale

end Aftermath

-- Planned again, the declared roles are updated in place, but for those whose id is unknown: each
-- of them disowns the role that was made for it and is made anew.
theorem rolePlan_after_rolePlan (pass : Pass) {declared observed : List Role} (declares : Declared declared)
    (observes : Observed observed) (issuer : Issuer (reservedIds declared observed)) :
    ∃ final, (Keeper.byId issuer).applyAll { roles := observed }
        ((pass.rolePlan declared observed).map (·.operation)) = some final ∧
      (pass.rolePlan declared final.roles).Perm
        ((Aftermath.disowned declared observed final.roles).map pass.deleteRole ++
          (declared.filter (!stale observed ·)).map (fun role => pass.updateRole role role) ++
          (declared.filter (stale observed)).map pass.createRole) ∧
      ((Aftermath.disowned declared observed final.roles).map bare).Perm
        ((declared.filter (stale observed)).map bare) ∧
      ((∀ action ∈ pass.rolePlan declared final.roles, action.kind = .updateRole ∧ action.isRename = false) ↔
        ∀ role ∈ declared, role.hasId → role.id ∈ observed.map (·.id)) := by
  obtain ⟨final, applied, aftermath⟩ := rolePlan_aftermath pass declares observes issuer
  exact ⟨final, applied, aftermath.rolePlan_perm pass declares observes, aftermath.disowned_perm declares,
    aftermath.quiet_iff pass declares observes⟩

-- A rename, a name taken up again and an unknown id: the second plan is not quiet.
theorem rolePlan_after_rolePlan_unknown_id :
    let declared := [Role.named "reader", Role.withId "1" "viewer", Role.withId "9" "writer"]
    let observed := [Role.withId "1" "reader", Role.withId "2" "writer"]
    let pass := Pass.of {} default
    Declared declared ∧ Observed observed ∧
      ∃ final, (Keeper.byId (Issuer.longer (reservedIds declared observed))).applyAll { roles := observed }
          ((pass.rolePlan declared observed).map (·.operation)) = some final ∧
        ¬ ∀ action ∈ pass.rolePlan declared final.roles, action.kind = .updateRole ∧ action.isRename = false := by
  have declares : Declared [Role.named "reader", Role.withId "1" "viewer", Role.withId "9" "writer"] :=
    ⟨by decide, by decide⟩
  have observes : Observed [Role.withId "1" "reader", Role.withId "2" "writer"] :=
    ⟨by decide, by decide, by decide⟩
  obtain ⟨final, applied, _, _, quiet⟩ :=
    rolePlan_after_rolePlan (Pass.of {} default) declares observes (Issuer.longer _)
  exact ⟨declares, observes, final, applied, quiet.not.mpr (by decide)⟩

-- So two passes do not always settle: a role under an unknown id goes and comes with every pass.
theorem unknown_id_never_settles :
    let declared := [Role.withId "stale" "reader"]
    let observed : List Role := []
    let pass := Pass.of {} default
    Declared declared ∧ Observed observed ∧
      ∃ final, (Keeper.byId (Issuer.longer (reservedIds declared observed))).applyAll { roles := observed }
          ((pass.rolePlan declared observed).map (·.operation)) = some final ∧
        (pass.rolePlan declared final.roles).map (·.kind) = [.deleteRole, .createRole] ∧
        ¬ (∀ action ∈ pass.rolePlan declared final.roles, action.kind = .updateRole ∧ action.isRename = false) := by
  refine ⟨⟨by decide, by decide⟩, ⟨by decide, by decide, by decide⟩, ?_⟩
  exact ⟨⟨[Role.withId "xxxxxx" "reader"], 1⟩, rfl, by decide, by decide⟩

end RealmPlan
