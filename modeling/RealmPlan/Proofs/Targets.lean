import RealmPlan.Proofs.Acceptance
import RealmPlan.Proofs.Keys
import RealmPlan.Proofs.Layout
import RealmPlan.Proofs.Separation

namespace RealmPlan

-- The kinds of what is done about a role.
def Operation.Kind.ofRole (kind : Operation.Kind) : Bool := kind ∈ [createRole, updateRole, deleteRole]

namespace Plan

def Key.Below (a b : Key) : Prop := a.1.rank < b.1.rank ∨ a.1 = b.1 ∧ a.2 < b.2

theorem Key.below_iff {a b : Key} : a.Below b ↔ le a b = true ∧ a ≠ b := by
  rw [le_iff]
  constructor
  · rintro (lower | ⟨same, before⟩)
    · exact ⟨.inl lower, fun equal => Nat.lt_irrefl _ (equal ▸ lower)⟩
    · exact ⟨.inr ⟨same, String.not_lt.mp (String.lt_asymm before)⟩,
        fun equal => String.lt_irrefl _ (equal ▸ before)⟩
  · intro ordered
    obtain ⟨lower | ⟨same, upTo⟩, different⟩ := ordered
    · exact .inl lower
    · refine .inr ⟨same, Decidable.byContradiction fun notBefore => different ?_⟩
      exact Prod.ext same (String.le_antisymm upTo (String.not_lt.mp notBefore))

-- The sorted keys increase strictly exactly if no two actions do the same to the same.
theorem keys_increasing_iff {plan : Plan} : plan.keys.Pairwise Key.Below ↔ (plan.map Action.key).Nodup := by
  rw [← (keys_perm plan).nodup_iff]
  constructor
  · intro increasing
    exact increasing.imp fun below => (Key.below_iff.mp below).2
  · intro once
    exact (keys_sorted plan).imp₂ (fun _ _ ordered different => Key.below_iff.mpr ⟨ordered, different⟩) once

theorem keys_nodup_iff {plan : Plan} :
    (plan.map Action.key).Nodup ↔ plan.Pairwise fun a b => ¬ (a.kind = b.kind ∧ a.target = b.target) := by
  rw [List.Nodup, List.pairwise_map]
  simp only [Action.key, Ne, Prod.mk.injEq]

-- Actions with different targets have different keys, whatever they do.
theorem keys_nodup_of_targets {plan : Plan} (targets : (plan.map Action.target).Nodup) :
    (plan.map Action.key).Nodup := by
  apply List.Nodup.of_map Prod.snd
  rwa [List.map_map]

-- Two parts of a plan that do different kinds of things share no key.
theorem keys_nodup_append {front back : Plan} (frontKeys : (front.map Action.key).Nodup)
    (backKeys : (back.map Action.key).Nodup) (apart : ∀ a ∈ front, ∀ b ∈ back, a.kind ≠ b.kind) :
    ((front ++ back).map Action.key).Nodup := by
  rw [List.map_append, List.nodup_append]
  refine ⟨frontKeys, backKeys, fun left inFront right inBack same => ?_⟩
  obtain ⟨a, aMember, rfl⟩ := List.mem_map.mp inFront
  obtain ⟨b, bMember, rfl⟩ := List.mem_map.mp inBack
  exact apart a aMember b bMember (congrArg Prod.fst same)

end Plan

namespace Pass
open Role

variable (pass : Pass) {declared observed : List Role}

-- Whatever becomes of a declared role, it is written under its own name.
theorem fate_target (declared observed : List Role) (role : Role) :
    (pass.fate declared observed role).target = role.name := by
  unfold fate renew
  split
  · split
    · rfl
    · split <;> rfl
  · rfl

theorem fate_kind (declared observed : List Role) (role : Role) :
    (pass.fate declared observed role).kind = .createRole ∨
      (pass.fate declared observed role).kind = .updateRole := by
  unfold fate
  split
  · split
    · exact .inr rfl
    · exact pass.renew_kind declared observed role
  · exact .inl rfl

-- A rename is keyed by the name that it leads to, so the names of the declared roles keep all that is written
-- apart, and the names of the observed ones keep apart what is deleted.
theorem rolePlan_keys_nodup (declares : (declared.map (·.name)).Nodup) (observes : (observed.map (·.name)).Nodup) :
    ((pass.rolePlan declared observed).map Action.key).Nodup := by
  rw [((pass.rolePlan_fates declared observed).map Action.key).nodup_iff]
  refine Plan.keys_nodup_append (Plan.keys_nodup_of_targets ?_) (Plan.keys_nodup_of_targets ?_) ?_
  · rw [List.map_map]
    exact (List.filter_sublist.map Role.name).nodup observes
  · have targets : Action.target ∘ pass.fate declared observed = Role.name :=
      funext (pass.fate_target declared observed)
    rwa [List.map_map, targets]
  · intro deletion deleted written isWritten same
    obtain ⟨old, _, rfl⟩ := List.mem_map.mp deleted
    obtain ⟨role, _, rfl⟩ := List.mem_map.mp isWritten
    rcases pass.fate_kind declared observed role with creates | updates
    · cases same.trans creates
    · cases same.trans updates

theorem rolePlan_ofRole (declared observed : List Role) :
    ∀ action ∈ pass.rolePlan declared observed, action.kind.ofRole = true := by
  intro action member
  obtain ⟨change, _, rfl⟩ := List.mem_map.mp member
  cases change <;> rfl

theorem groundwork_keys_nodup (observation : Observation) : ((pass.groundwork observation).map Action.key).Nodup := by
  apply List.Nodup.of_map Prod.fst
  rcases observation with ⟨_, _ | _, _ | _, _⟩ <;> exact of_decide_eq_true rfl

theorem groundwork_ofRole (observation : Observation) :
    ∀ action ∈ pass.groundwork observation, action.kind.ofRole = false := by
  intro action member
  rcases pass.mem_groundwork member with rfl | rfl | rfl
  · rfl
  · unfold clientAction
    split <;> rfl
  · unfold secretAction
    split <;> rfl

end Pass

theorem Resource.plan_keys_nodup (resource : Resource) (observation : Observation)
    (declares : (resource.spec.roles.map (·.name)).Nodup) (observes : (observation.roles.map (·.name)).Nodup) :
    ((resource.plan observation).map Action.key).Nodup := by
  cases marked : resource.metadata.deletionTimestamp with
  | some instant =>
    rw [resource.plan_of_going observation (by rw [marked, Option.isSome_some])]
    simp [Pass.ping, Pass.deleteClient, Action.key, Action.kind, Operation.kind]
  | none =>
    rw [resource.plan_of_staying observation marked]
    let pass := Pass.of observation resource
    refine Plan.keys_nodup_append (pass.groundwork_keys_nodup observation)
      (pass.rolePlan_keys_nodup declares observes) ?_
    intro own isOwn ofRole isOfRole same
    have apart := pass.groundwork_ofRole observation own isOwn
    rw [same, pass.rolePlan_ofRole _ _ ofRole isOfRole] at apart
    cases apart

-- What is accepted is planned without doing the same to the same twice, as long as the realm tells each name once.
-- Of ids nothing is asked there, so that they may repeat or be missing.
theorem plan_keys_increasing (maxRoles : Nat) (resource : Resource) (observation : Observation)
    (accepted : Violation.first? maxRoles resource = none) (observes : (observation.roles.map (·.name)).Nodup) :
    (resource.plan observation).keys.Pairwise Plan.Key.Below ∧
      (resource.plan observation).Pairwise fun a b => ¬ (a.kind = b.kind ∧ a.target = b.target) := by
  have once := resource.plan_keys_nodup observation (Violation.declared_of_accepted accepted).names observes
  exact ⟨Plan.keys_increasing_iff.mpr once, Plan.keys_nodup_iff.mp once⟩

-- A role is renamed, the name that it leaves is created again, and a third one is taken over by its name. Two
-- observed roles share an id, and one has none.
theorem plan_keys_increasing_shared_id :
    let resource : Resource :=
      { metadata := {}
        spec := {
          realm := "main", client := { clientId := "app" }
          roles := [Role.withId "1" "b", Role.named "a", Role.withId "9" "c", Role.named "d"] } }
    let observation : Observation := { roles := [Role.withId "1" "d", Role.withId "1" "a", Role.named "c"] }
    Violation.first? 4 resource = none ∧ (observation.roles.map (·.name)).Nodup ∧
      (resource.plan observation).keys.Pairwise Plan.Key.Below := by
  intro resource observation
  have accepted : Violation.first? 4 resource = none := by decide +kernel
  have observes : (observation.roles.map (·.name)).Nodup := by decide
  exact ⟨accepted, observes, (plan_keys_increasing 4 resource observation accepted observes).1⟩

end RealmPlan
