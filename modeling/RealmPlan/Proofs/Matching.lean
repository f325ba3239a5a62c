import RealmPlan.Proofs.Pairing

namespace RealmPlan.Role.Pairing

def sameId (role old : Role) : Bool := role.id == old.id
def sameName (role old : Role) : Bool := role.name == old.name

def byId (declared observed : List Role) : Pairing :=
  of sameId (declared.filter (·.hasId)) observed

-- Names count only among the observed roles that no id has taken.
def byName (declared observed : List Role) : Pairing :=
  of sameName (declared.filter (!·.hasId)) (byId declared observed).free

def between (declared observed : List Role) : Pairing where
  pairs := (byId declared observed).pairs ++ (byName declared observed).pairs
  alone := (byId declared observed).alone ++ (byName declared observed).alone
  free := (byName declared observed).free

-- Whom an update is sent to: an id pair names the observed role, a name pair the declared one.
def addressee (pair : Role × Role) : Role := if pair.1.hasId then pair.2 else pair.1

variable {declared observed : List Role} {role old : Role}

theorem between_seekers (declared observed : List Role) :
    ((between declared observed).pairs.map Prod.fst ++ (between declared observed).alone).Perm declared := by
  have ids := seekers_perm sameId (declared.filter (·.hasId)) observed
  have names := seekers_perm sameName (declared.filter (!·.hasId)) (byId declared observed).free
  have split := List.filter_append_perm (·.hasId) declared
  apply List.perm_iff_count.mpr
  intro role
  have idCount := ids.count_eq role
  have nameCount := names.count_eq role
  have splitCount := split.count_eq role
  simp only [List.count_append] at idCount nameCount splitCount
  simp only [between, byName, List.map_append, List.count_append]
  rw [byId] at nameCount ⊢
  omega

theorem between_partners (declared observed : List Role) :
    ((between declared observed).pairs.map Prod.snd ++ (between declared observed).free).Perm observed := by
  have ids := partners_perm sameId (declared.filter (·.hasId)) observed
  have names := partners_perm sameName (declared.filter (!·.hasId)) (byId declared observed).free
  simp only [between, List.map_append, List.append_assoc]
  exact (names.append_left _).trans ids

theorem exclusive_byId (declares : Declared declared) (observes : Observed observed) :
    Exclusive sameId (declared.filter (·.hasId)) observed where
  seekers := declares.nodup.filter _
  partners := observes.nodup
  one_partner role _ a aMember b bMember aFits bFits := by
    simp only [sameId, beq_iff_eq] at aFits bFits
    exact observes.same_id aMember bMember (aFits.symm.trans bFits)
  one_seeker a aMember b bMember partner _ aFits bFits := by
    simp only [sameId, beq_iff_eq] at aFits bFits
    obtain ⟨aDeclared, _⟩ := List.mem_filter.mp aMember
    obtain ⟨bDeclared, numbered⟩ := List.mem_filter.mp bMember
    exact declares.same_id aDeclared bDeclared numbered (aFits.trans bFits.symm)

theorem mem_byId_pairs (declares : Declared declared) (observes : Observed observed) :
    (role, old) ∈ (byId declared observed).pairs ↔
      role ∈ declared ∧ role.hasId ∧ old ∈ observed ∧ old.id = role.id := by
  rw [byId, mem_pairs (exclusive_byId declares observes), List.mem_filter, and_assoc]
  simp only [sameId, beq_iff_eq, eq_comm (a := role.id)]

theorem mem_byId_free (declares : Declared declared) (observes : Observed observed) :
    old ∈ (byId declared observed).free ↔ old ∈ observed ∧ ¬ Pinned declared old := by
  rw [byId, mem_free (exclusive_byId declares observes)]
  apply and_congr_right
  intro member
  simp only [sameId, List.mem_filter, beq_eq_false_iff_ne, Pinned, not_exists, not_and]
  constructor
  · intro apart pin pinDeclared same
    exact apart pin ⟨pinDeclared, hasId_of_same_id same (observes.identified old member)⟩ same
  · intro unpinned pin pinDeclared
    exact unpinned pin pinDeclared.1

theorem mem_byId_alone (declares : Declared declared) (observes : Observed observed) :
    role ∈ (byId declared observed).alone ↔
      role ∈ declared ∧ role.hasId ∧ ∀ old ∈ observed, old.id ≠ role.id := by
  rw [byId, mem_alone (exclusive_byId declares observes), List.mem_filter, and_assoc]
  simp only [sameId, beq_eq_false_iff_ne, ne_comm (a := role.id)]

theorem exclusive_byName (declares : Declared declared) (observes : Observed observed) :
    Exclusive sameName (declared.filter (!·.hasId)) (byId declared observed).free where
  seekers := declares.nodup.filter _
  partners := by
    have once := (partners_perm sameId (declared.filter (·.hasId)) observed).nodup_iff.mpr observes.nodup
    exact (List.nodup_append.mp once).2.1
  one_partner role _ a aMember b bMember aFits bFits := by
    simp only [sameName, beq_iff_eq] at aFits bFits
    exact observes.same_name (free_subset aMember) (free_subset bMember) (aFits.symm.trans bFits)
  one_seeker a aMember b bMember partner _ aFits bFits := by
    simp only [sameName, beq_iff_eq] at aFits bFits
    exact declares.same_name (List.mem_filter.mp aMember).1 (List.mem_filter.mp bMember).1
      (aFits.trans bFits.symm)

theorem mem_byName_pairs (declares : Declared declared) (observes : Observed observed) :
    (role, old) ∈ (byName declared observed).pairs ↔
      role ∈ declared ∧ role.hasId = false ∧ old ∈ observed ∧ ¬ Pinned declared old ∧ old.name = role.name := by
  rw [byName, mem_pairs (exclusive_byName declares observes), mem_byId_free declares observes]
  simp only [sameName, List.mem_filter, Bool.not_eq_true', beq_iff_eq, eq_comm (a := role.name), and_assoc]

theorem mem_byName_alone (declares : Declared declared) (observes : Observed observed) :
    role ∈ (byName declared observed).alone ↔
      role ∈ declared ∧ role.hasId = false ∧
        ∀ old ∈ observed, ¬ Pinned declared old → old.name ≠ role.name := by
  rw [byName, mem_alone (exclusive_byName declares observes)]
  simp only [mem_byId_free declares observes, sameName, List.mem_filter, Bool.not_eq_true',
    beq_eq_false_iff_ne, ne_comm (a := role.name), and_assoc, and_imp]

theorem mem_byName_free (declares : Declared declared) (observes : Observed observed) :
    old ∈ (byName declared observed).free ↔ old ∈ Change.surplus declared observed := by
  rw [byName, mem_free (exclusive_byName declares observes), mem_byId_free declares observes,
    Change.mem_surplus observes]
  simp only [sameName, List.mem_filter, Bool.not_eq_true', beq_eq_false_iff_ne, and_assoc, and_imp]

end RealmPlan.Role.Pairing

namespace RealmPlan
open Role Role.Pairing Role.Change

variable {declared observed : List Role} {role old : Role}

-- Whether a call is about a role that the realm keeps. A creation is about none.
def Operation.addresses (stored : Role) : Operation → Bool
  | updateRole _ old _ _ => old.denotes stored
  | deleteRole role _ _ => role.denotes stored
  | _ => false

-- The calls that a pairing asks for.
def Pass.pairingPlan (pass : Pass) (pairing : Pairing) : Plan :=
  pairing.free.map pass.deleteRole ++
    pairing.pairs.map (fun pair => pass.updateRole pair.1 (addressee pair)) ++
    pairing.alone.map pass.createRole

namespace Role.Pairing

theorem surplus_perm (declares : Declared declared) (observes : Observed observed) :
    (surplus declared observed).Perm (between declared observed).free := by
  have once := (between_partners declared observed).nodup_iff.mpr observes.nodup
  exact (List.perm_ext_iff_of_nodup (surplus_nodup observes) (List.nodup_append.mp once).2.1).mpr
    fun _ => (mem_byName_free declares observes).symm

theorem pins_perm (declares : Declared declared) (observes : Observed observed) :
    (pins declared observed).Perm (byId declared observed).pairs := by
  have once := (seekers_perm sameId (declared.filter (·.hasId)) observed).nodup_iff.mpr
    (declares.nodup.filter _)
  have pairsOnce : (byId declared observed).pairs.Nodup := (List.nodup_append.mp once).1.of_map _
  apply (List.perm_ext_iff_of_nodup (pins_nodup declares) pairsOnce).mpr
  intro pair
  obtain ⟨role, old⟩ := pair
  rw [mem_pins observes, mem_byId_pairs declares observes]

theorem keepers_perm (declares : Declared declared) (observes : Observed observed) :
    (keepers declared observed).Perm
      ((byName declared observed).pairs.map Prod.fst) := by
  have once := (between_seekers declared observed).nodup_iff.mpr declares.nodup
  simp only [between, List.map_append, List.append_assoc] at once
  have pairsOnce := (List.nodup_append.mp (List.nodup_append.mp once).2.1).1
  apply (List.perm_ext_iff_of_nodup (keepers_nodup declares) pairsOnce).mpr
  intro role
  rw [mem_keepers observes, List.mem_map]
  constructor
  · intro heir
    obtain ⟨unnumbered, old, member, inherits⟩ := heir
    obtain ⟨isDeclared, sameName, unpinned⟩ := (inherits_unnumbered unnumbered).mp inherits
    exact ⟨(role, old), (mem_byName_pairs declares observes).mpr
      ⟨isDeclared, unnumbered, member, unpinned, sameName⟩, rfl⟩
  · intro paired
    obtain ⟨⟨_, old⟩, pair, rfl⟩ := paired
    obtain ⟨isDeclared, unnumbered, member, unpinned, sameName⟩ := (mem_byName_pairs declares observes).mp pair
    exact ⟨unnumbered, old, member, (inherits_unnumbered unnumbered).mpr ⟨isDeclared, sameName, unpinned⟩⟩

theorem creations_perm (declares : Declared declared) (observes : Observed observed) :
    (creations declared observed).Perm (between declared observed).alone := by
  have once := (between_seekers declared observed).nodup_iff.mpr declares.nodup
  refine (List.perm_ext_iff_of_nodup (creations_nodup declares) (List.nodup_append.mp once).2.1).mpr
    fun role => ?_
  rw [mem_creations observes, between, List.mem_append, mem_byId_alone declares observes,
    mem_byName_alone declares observes]
  cases numbered : role.hasId with
  | true =>
    simp only [inherits_numbered numbered, Bool.true_eq_false, true_and, false_and, and_false, or_false]
    apply and_congr_right
    intro isDeclared
    simp only [isDeclared, true_and, ne_eq]
  | false =>
    simp only [inherits_unnumbered numbered, Bool.false_eq_true, true_and, false_and, and_false, false_or]
    apply and_congr_right
    intro isDeclared
    simp only [isDeclared, true_and, not_and_not_right, ne_eq, not_imp_not]

theorem rolePlan_perm (pass : Pass) (declares : Declared declared) (observes : Observed observed) :
    (pass.rolePlan declared observed).Perm (pass.pairingPlan (between declared observed)) := by
  have idPairs : (byId declared observed).pairs.map (fun pair => pass.updateRole pair.1 (addressee pair)) =
      (byId declared observed).pairs.map fun pair => pass.updateRole pair.1 pair.2 := by
    refine List.map_congr_left fun ⟨role, old⟩ pair => ?_
    simp [addressee, ((mem_byId_pairs declares observes).mp pair).2.1]
  have namePairs : (byName declared observed).pairs.map (fun pair => pass.updateRole pair.1 (addressee pair)) =
      ((byName declared observed).pairs.map Prod.fst).map fun role => pass.updateRole role role := by
    rw [List.map_map]
    refine List.map_congr_left fun ⟨role, old⟩ pair => ?_
    simp [addressee, ((mem_byName_pairs declares observes).mp pair).2.1]
  have rest := (pass.others_perm declared observed).trans
    (((keepers_perm declares observes).map _).append ((creations_perm declares observes).map _))
  have updates := ((pins_perm declares observes).map fun pair => pass.updateRole pair.1 pair.2).append rest
  rw [pass.rolePlan_eq declares observes, Pass.pairingPlan, between, List.map_append, idPairs, namePairs]
  simp only [List.append_assoc]
  exact ((surplus_perm declares observes).map _).append updates

theorem denotes_observed {a b : Role} (observes : Observed observed) (left : a ∈ observed)
    (right : b ∈ observed) : a.denotes b = true ↔ a = b := by
  simp only [denotes, observes.identified a left, if_true, beq_iff_eq]
  exact ⟨observes.same_id left right, congrArg Role.id⟩

theorem denotes_addressee (declares : Declared declared) (observes : Observed observed)
    (pair : (role, old) ∈ (between declared observed).pairs) {stored : Role} (member : stored ∈ observed) :
    (addressee (role, old)).denotes stored = true ↔ old = stored := by
  rcases List.mem_append.mp pair with byId | byName
  · obtain ⟨_, numbered, oldMember, _⟩ := (mem_byId_pairs declares observes).mp byId
    simpa [addressee, numbered] using denotes_observed observes oldMember member
  · obtain ⟨_, unnumbered, oldMember, _, sameName⟩ := (mem_byName_pairs declares observes).mp byName
    simp only [addressee, unnumbered, Bool.false_eq_true, if_false, denotes, beq_iff_eq, ← sameName]
    exact ⟨observes.same_name oldMember member, congrArg Role.name⟩

-- Every observed role has one place in the pairing, and its place makes the one call about it.
theorem addressed_once (pass : Pass) (declares : Declared declared) (observes : Observed observed)
    {stored : Role} (member : stored ∈ observed) :
    (pass.pairingPlan (between declared observed)).countP (·.operation.addresses stored) = 1 := by
  have partners := between_partners declared observed
  have goes : ((between declared observed).free.map pass.deleteRole).countP
      (·.operation.addresses stored) = (between declared observed).free.count stored := by
    rw [List.countP_map, List.count]
    apply List.countP_congr
    intro old free
    rw [beq_iff_eq]
    exact denotes_observed observes (partners.subset (List.mem_append_right _ free)) member
  have stays : ((between declared observed).pairs.map fun pair => pass.updateRole pair.1 (addressee pair)).countP
      (·.operation.addresses stored) = ((between declared observed).pairs.map Prod.snd).count stored := by
    rw [List.countP_map, List.count, List.countP_map]
    refine List.countP_congr fun ⟨role, old⟩ pair => ?_
    exact (denotes_addressee declares observes pair member).trans beq_iff_eq.symm
  have comes : ((between declared observed).alone.map pass.createRole).countP
      (·.operation.addresses stored) = 0 := by
    rw [List.countP_map]
    exact List.countP_eq_zero.mpr fun _ _ => Bool.false_ne_true
  have once := List.count_eq_one_of_mem observes.nodup member
  rw [← partners.count_eq, List.count_append] at once
  rw [Pass.pairingPlan, List.countP_append, List.countP_append, goes, stays, comes]
  omega

theorem not_deleted (pass : Pass) (declares : Declared declared) (observes : Observed observed)
    {stored : Role} (member : stored ∈ observed) (pinned : Pinned declared stored) {action : Action}
    (planned : action ∈ pass.rolePlan declared observed) (deletes : action.kind = .deleteRole) :
    action.operation.addresses stored = false := by
  have paired := (rolePlan_perm pass declares observes).subset planned
  simp only [Pass.pairingPlan, List.mem_append, List.mem_map] at paired
  obtain (⟨old, free, rfl⟩ | ⟨pair, _, rfl⟩) | ⟨role, _, rfl⟩ := paired
  · obtain ⟨oldMember, unpinned, _⟩ := (mem_surplus observes).mp ((mem_byName_free declares observes).mp free)
    rw [← Bool.not_eq_true]
    intro addressed
    rw [(denotes_observed observes oldMember member).mp addressed] at unpinned
    exact unpinned pinned
  · cases deletes
  · cases deletes

end Role.Pairing

-- The plan is what the pairing of ids first and of names second asks for, so every observed role
-- is met by exactly one call, and a role whose id is declared by no deletion.
theorem rolePlan_follows_pairing (pass : Pass) (declares : Declared declared) (observes : Observed observed) :
    (((between declared observed).pairs.map Prod.fst).Nodup ∧
      ((between declared observed).pairs.map Prod.snd).Nodup) ∧
    (((between declared observed).pairs.map Prod.fst ++ (between declared observed).alone).Perm declared ∧
      ((between declared observed).pairs.map Prod.snd ++ (between declared observed).free).Perm observed) ∧
    (pass.rolePlan declared observed).Perm (pass.pairingPlan (between declared observed)) ∧
    (∀ old ∈ observed, (pass.rolePlan declared observed).countP (·.operation.addresses old) = 1) ∧
    ∀ old ∈ observed, Pinned declared old → ∀ action ∈ pass.rolePlan declared observed,
      action.kind = .deleteRole → action.operation.addresses old = false := by
  have seekers := between_seekers declared observed
  have partners := between_partners declared observed
  have plan := rolePlan_perm pass declares observes
  refine ⟨⟨?_, ?_⟩, ⟨seekers, partners⟩, plan, fun old member => ?_, fun old member pinned action => ?_⟩
  · exact (List.nodup_append.mp (seekers.nodup_iff.mpr declares.nodup)).1
  · exact (List.nodup_append.mp (partners.nodup_iff.mpr observes.nodup)).1
  · rw [plan.countP_eq]
    exact addressed_once pass declares observes member
  · exact not_deleted pass declares observes member pinned

-- A rename leaves a name that another declaration takes up, an id is not known, and a role goes.
theorem rolePlan_follows_pairing_reused_name :
    let declared := [Role.named "reader", Role.withId "1" "viewer", Role.withId "9" "auditor"]
    let observed := [Role.withId "1" "reader", Role.withId "2" "writer"]
    let pass := Pass.of {} default
    Declared declared ∧ Observed observed ∧ Role.withId "1" "reader" ∈ observed ∧
      Pinned declared (Role.withId "1" "reader") ∧
      (pass.rolePlan declared observed).Perm (pass.pairingPlan
        ⟨[(Role.withId "1" "viewer", Role.withId "1" "reader")],
         [Role.withId "9" "auditor", Role.named "reader"], [Role.withId "2" "writer"]⟩) := by
  have declares : Declared [Role.named "reader", Role.withId "1" "viewer", Role.withId "9" "auditor"] :=
    ⟨by decide, by decide⟩
  have observes : Observed [Role.withId "1" "reader", Role.withId "2" "writer"] :=
    ⟨by decide, by decide, by decide⟩
  exact ⟨declares, observes, by decide, by decide,
    (rolePlan_follows_pairing (Pass.of {} default) declares observes).2.2.1⟩

end RealmPlan
