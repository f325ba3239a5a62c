import RealmPlan.Proofs.Keys
import RealmPlan.Proofs.Scan

namespace RealmPlan
namespace Role

variable {roles reordered declared observed : List Role}

theorem DistinctIds.perm (distinct : DistinctIds roles) (order : reordered.Perm roles) : DistinctIds reordered :=
  ((order.filter _).map _).nodup_iff.mpr distinct

theorem matched_perm (order : reordered.Perm roles) : Matched reordered = Matched roles := by
  funext role
  simp only [Matched, order.mem_iff]

-- With distinct ids there is no other candidate, so the last one is the only one.
theorem lastWithId_eq_some_iff (distinct : DistinctIds observed) {role old : Role} (numbered : role.hasId) :
    lastWithId? observed role.id = some old ↔ old ∈ observed ∧ old.id = role.id := by
  constructor
  · exact mem_of_lastWithId
  · intro found
    obtain ⟨member, same⟩ := found
    have candidate : old ∈ observed.filter fun other => other.id == role.id :=
      List.mem_filter.mpr ⟨member, beq_iff_eq.mpr same⟩
    cases last : lastWithId? observed role.id with
    | none =>
      rw [lastWithId?, List.getLast?_eq_none_iff] at last
      rw [last] at candidate
      cases candidate
    | some other =>
      obtain ⟨otherMember, otherSame⟩ := mem_of_lastWithId last
      have one := distinct.same_id member otherMember (hasId_of_same_id otherSame numbered) (same.trans otherSame.symm)
      rw [one]

theorem lastWithId_perm (distinct : DistinctIds observed) (order : reordered.Perm observed) {role : Role}
    (numbered : role.hasId) : lastWithId? reordered role.id = lastWithId? observed role.id := by
  apply Option.ext
  intro old
  rw [lastWithId_eq_some_iff (distinct.perm order) numbered, lastWithId_eq_some_iff distinct numbered, order.mem_iff]

theorem vacated_redeclared (order : reordered.Perm declared) :
    Vacated reordered observed = Vacated declared observed := by
  funext name
  simp only [Vacated, order.mem_iff]

theorem vacated_reobserved (distinct : DistinctIds observed) (order : reordered.Perm observed) :
    Vacated declared reordered = Vacated declared observed := by
  funext name
  refine propext (exists_congr fun pin => and_congr_right fun _ => and_congr_right fun numbered => ?_)
  rw [lastWithId_perm distinct order numbered]

end Role

namespace Pass
open Role

variable (pass : Pass) {declared redeclared observed reobserved : List Role}

theorem rolePlan_redeclared (order : redeclared.Perm declared) :
    (pass.rolePlan redeclared observed).Perm (pass.rolePlan declared observed) := by
  have renewed : pass.renew redeclared observed = pass.renew declared observed := by
    funext role
    simp only [renew, vacated_redeclared order]
  rw [rolePlan_scan, rolePlan_scan]
  simp only [scanPlan, matched_perm order, renewed]
  have same (keep : Role → Bool) (action : Role → Action) := (order.filter keep).map action
  exact (((List.Perm.refl _).append (same _ _)).append (same _ _)).append (same _ _)

theorem rolePlan_reobserved (distinct : DistinctIds observed) (order : reobserved.Perm observed) :
    (pass.rolePlan declared reobserved).Perm (pass.rolePlan declared observed) := by
  have renewed : pass.renew declared reobserved = pass.renew declared observed := by
    funext role
    simp only [renew, vacated_reobserved distinct order]
  have updated : (declared.filter fun role => Matched observed role ∧ role.hasId).map
        (fun role => pass.updateRole role ((lastWithId? reobserved role.id).getD role)) =
      (declared.filter fun role => Matched observed role ∧ role.hasId).map
        (fun role => pass.updateRole role ((lastWithId? observed role.id).getD role)) := by
    apply List.map_congr_left
    intro role found
    have numbered : Matched observed role ∧ role.hasId := of_decide_eq_true (List.mem_filter.mp found).2
    rw [lastWithId_perm distinct order numbered.2]
  rw [rolePlan_scan, rolePlan_scan]
  simp only [scanPlan, matched_perm order, renewed, updated]
  have deleted := (order.filter fun old => ¬ Matched declared old).map pass.deleteRole
  exact ((deleted.append_right _).append_right _).append_right _

end Pass

-- All that keys and summaries look at.
def Action.outline (action : Action) : Plan.Key × Bool := (action.key, action.isRename)

namespace Plan

-- Their order apart, the two plans read the same.
def Alike (a b : Plan) : Prop := a.keys = b.keys ∧ a.summary = b.summary

theorem alike_of_outline {a b : Plan} (order : (a.map Action.outline).Perm (b.map Action.outline)) : Alike a b := by
  have keys : (a.map Action.key).Perm (b.map Action.key) := by
    have projected := order.map Prod.fst
    rwa [List.map_map, List.map_map] at projected
  have counts (counted : Key × Bool → Bool) :
      a.countP (counted ∘ Action.outline) = b.countP (counted ∘ Action.outline) := by
    rw [← List.countP_map, ← List.countP_map, order.countP_eq]
  have effects (effect : Effect) : withEffect a effect = withEffect b effect :=
    counts fun outline => outline.1.1.effect == effect
  have renames : a.countP Action.isRename = b.countP Action.isRename := counts Prod.snd
  exact ⟨keys_eq_iff.mpr keys, by simp only [summary, effects, renames]⟩

end Plan

def Resource.withRoles (resource : Resource) (roles : List Role) : Resource :=
  { resource with spec := { resource.spec with roles } }

def Observation.withRoles (observation : Observation) (roles : List Role) : Observation := { observation with roles }

namespace Resource

theorem outline_clientAction (resource : Resource) (observation : Observation) (declared observed : List Role) :
    ((Pass.of (observation.withRoles observed) (resource.withRoles declared)).clientAction
        (observation.withRoles observed)).outline =
      ((Pass.of observation resource).clientAction observation).outline := by
  rcases observation with ⟨_, _ | _, _, _⟩ <;> rfl

theorem outline_secretAction (resource : Resource) (observation : Observation) (declared observed : List Role) :
    ((Pass.of (observation.withRoles observed) (resource.withRoles declared)).secretAction
        (observation.withRoles observed)).outline =
      ((Pass.of observation resource).secretAction observation).outline := by
  rcases observation with ⟨_, _, _ | _, _⟩ <;> rfl

-- The roles have no part in any other action, except that the client's own payload carries them along.
theorem plan_alike (resource : Resource) (observation : Observation) {declared observed : List Role}
    (order : ((Pass.of observation resource).rolePlan declared observed).Perm (resource.rolePlan observation)) :
    Plan.Alike ((resource.withRoles declared).plan (observation.withRoles observed)) (resource.plan observation) := by
  apply Plan.alike_of_outline
  have roles : (resource.withRoles declared).rolePlan (observation.withRoles observed) =
      (Pass.of observation resource).rolePlan declared observed := rfl
  have going : (resource.withRoles declared).beingDeleted = resource.beingDeleted := rfl
  cases gone : resource.beingDeleted with
  | true =>
    simp only [plan, going, gone, if_true]
    exact .refl _
  | false =>
    simp only [plan, going, gone, roles, Bool.false_eq_true, if_false, List.map_append, List.map_cons,
      outline_clientAction, outline_secretAction]
    exact (order.map Action.outline).append_left _

end Resource

-- The order of the declared roles never matters to what is planned, only to when it is planned; the order of
-- the observed roles does not either, unless an id stands on several of them. So a reader of the sorted keys
-- and of the summary sees no difference.
theorem plan_ignores_order :
    (∀ (pass : Pass) {declared redeclared : List Role} (observed : List Role), redeclared.Perm declared →
      (pass.rolePlan redeclared observed).Perm (pass.rolePlan declared observed)) ∧
    (∀ (pass : Pass) (declared : List Role) {observed reobserved : List Role}, Role.DistinctIds observed →
      reobserved.Perm observed → (pass.rolePlan declared reobserved).Perm (pass.rolePlan declared observed)) ∧
    (∀ (resource : Resource) (observation : Observation) (redeclared : List Role),
      redeclared.Perm resource.spec.roles →
      Plan.Alike ((resource.withRoles redeclared).plan observation) (resource.plan observation)) ∧
    ∀ (resource : Resource) (observation : Observation) (reobserved : List Role),
      Role.DistinctIds observation.roles → reobserved.Perm observation.roles →
      Plan.Alike (resource.plan (observation.withRoles reobserved)) (resource.plan observation) := by
  refine ⟨?_, ?_, ?_, ?_⟩
  · intro pass declared redeclared observed order
    exact pass.rolePlan_redeclared order
  · intro pass declared observed reobserved distinct order
    exact pass.rolePlan_reobserved distinct order
  · intro resource observation redeclared order
    exact resource.plan_alike observation ((Pass.of observation resource).rolePlan_redeclared order)
  · intro resource observation reobserved distinct order
    exact resource.plan_alike observation ((Pass.of observation resource).rolePlan_reobserved distinct order)

-- Reversed declarations turn the two renames round, and that is all.
theorem plan_ignores_order_reversed :
    let declared := [Role.withId "1" "b", Role.withId "2" "c", Role.named "a"]
    let observed := [Role.withId "1" "a", Role.withId "2" "b"]
    let resource := (default : Resource).withRoles declared
    let observation := (default : Observation).withRoles observed
    Role.DistinctIds observed ∧
      ((Pass.of {} default).rolePlan declared.reverse observed).Perm ((Pass.of {} default).rolePlan declared observed) ∧
      ((Pass.of {} default).rolePlan declared observed.reverse).Perm ((Pass.of {} default).rolePlan declared observed) ∧
      Plan.Alike ((resource.withRoles declared.reverse).plan observation) (resource.plan observation) ∧
      Plan.Alike (resource.plan (observation.withRoles observed.reverse)) (resource.plan observation) := by
  intro declared observed resource observation
  have distinct : Role.DistinctIds observed := by decide
  obtain ⟨redeclared, reobserved, resourceReordered, observationReordered⟩ := plan_ignores_order
  exact ⟨distinct, redeclared _ observed declared.reverse_perm, reobserved _ declared distinct observed.reverse_perm,
    resourceReordered resource observation _ declared.reverse_perm,
    observationReordered resource observation _ distinct observed.reverse_perm⟩

end RealmPlan
