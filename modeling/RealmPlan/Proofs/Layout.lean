import RealmPlan.Proofs.Report
import RealmPlan.Proofs.Scan

namespace RealmPlan

-- What a call may be about in a plan for a resource: the whole resource, or its client by id, and always in one
-- realm. A check and the calls on secrets go to no realm.
def Operation.Serves (resource : Resource) (realm : String) : Operation → Prop
  | ping | createSecret _ | updateSecret _ => True
  | createClient client place | updateClient client place | deleteClient client place =>
    client = resource ∧ place = realm
  | createRole _ clientId place | updateRole _ _ clientId place | deleteRole _ clientId place =>
    clientId = resource.clientId ∧ place = realm

-- An action that brings about something declared, be it new or not.
def Action.Writes (action : Action) : Prop := action.effect = .create ∨ action.effect = .update

theorem Action.kind_ne_ping_of_mutating {action : Action} (changes : action.isMutating) : action.kind ≠ .ping := by
  intro check
  rw [Action.isMutating, Operation.isMutating, ← Action.kind, check] at changes
  cases changes

namespace Plan

theorem withEffect_append (front back : Plan) (effect : Effect) :
    withEffect (front ++ back) effect = withEffect front effect + withEffect back effect :=
  List.countP_append

theorem withEffect_eq_zero {plan : Plan} {effect : Effect} (none : ∀ action ∈ plan, action.effect ≠ effect) :
    withEffect plan effect = 0 :=
  List.countP_eq_zero.mpr fun action member same => none action member (eq_of_beq same)

theorem withEffect_eq_length {plan : Plan} {effect : Effect} (all : ∀ action ∈ plan, action.effect = effect) :
    withEffect plan effect = plan.length :=
  List.countP_eq_length.mpr fun action member => beq_iff_eq.mpr (all action member)

-- What only writes is counted as created or as updated, action by action, and as nothing else.
theorem written_of_writes {plan : Plan} (writes : ∀ action ∈ plan, action.Writes) :
    withEffect plan .create + withEffect plan .update = plan.length ∧ withEffect plan .delete = 0 := by
  constructor
  · induction plan with
    | nil => rfl
    | cons action rest ih =>
      have later := ih fun other member => writes other (List.mem_cons_of_mem _ member)
      have here : withEffect [action] .create + withEffect [action] .update = 1 := by
        rcases writes action List.mem_cons_self with creates | updates
        · simp [withEffect, creates]
        · simp [withEffect, updates]
      have created := withEffect_append [action] rest .create
      have updated := withEffect_append [action] rest .update
      rw [List.singleton_append] at created updated
      rw [created, updated, List.length_cons]
      omega
  · apply withEffect_eq_zero
    intro action member deletes
    rcases writes action member with creates | updates
    · cases creates.symm.trans deletes
    · cases updates.symm.trans deletes

end Plan

namespace Pass
open Role

variable (pass : Pass)

theorem realm_of (observation : Observation) (resource : Resource) :
    (Pass.of observation resource).realm =
      if observation.realm = "" then resource.spec.realm else observation.realm := by
  simp only [Pass.of, String.isEmpty_iff]

theorem roleAction_serves (change : Change) : (pass.roleAction change).operation.Serves pass.resource pass.realm := by
  cases change <;> exact ⟨rfl, rfl⟩

theorem rolePlan_serves (declared observed : List Role) :
    ∀ action ∈ pass.rolePlan declared observed, action.operation.Serves pass.resource pass.realm := by
  intro action member
  obtain ⟨change, _, rfl⟩ := List.mem_map.mp member
  exact pass.roleAction_serves change

theorem renew_kind (declared observed : List Role) (role : Role) :
    (pass.renew declared observed role).kind = .createRole ∨
      (pass.renew declared observed role).kind = .updateRole := by
  unfold renew
  split
  · exact .inl rfl
  · exact .inr rfl

-- All roles that go are deleted before one is written, and each declared role is written once.
theorem rolePlan_parts (declared observed : List Role) :
    ∃ writes, pass.rolePlan declared observed =
        (observed.filter fun old => ¬ Matched declared old).map pass.deleteRole ++ writes ∧
      writes.length = declared.length ∧
      ∀ action ∈ writes, action.kind = .createRole ∨ action.kind = .updateRole := by
  rw [rolePlan_scan, scanPlan, List.append_assoc, List.append_assoc]
  refine ⟨_, rfl, ?_, fun action member => ?_⟩
  · have once := (segments_perm declared observed).length_eq
    simpa only [List.length_append, List.length_map, Nat.add_assoc] using once
  · rcases List.mem_append.mp member with updated | later
    · obtain ⟨role, _, rfl⟩ := List.mem_map.mp updated
      exact .inr rfl
    · rcases List.mem_append.mp later with renewed | created
      · obtain ⟨role, _, rfl⟩ := List.mem_map.mp renewed
        exact pass.renew_kind declared observed role
      · obtain ⟨role, _, rfl⟩ := List.mem_map.mp created
        exact .inl rfl

theorem rolePlan_counts (declared observed : List Role) :
    (pass.rolePlan declared observed).withEffect .create + (pass.rolePlan declared observed).withEffect .update =
        declared.length ∧
      (pass.rolePlan declared observed).withEffect .delete =
        (observed.filter fun old => ¬ Matched declared old).length := by
  obtain ⟨writes, parts, once, written⟩ := pass.rolePlan_parts declared observed
  generalize (observed.filter fun old => ¬ Matched declared old) = surplus at parts ⊢
  have deletes : ∀ action ∈ surplus.map pass.deleteRole, action.effect = .delete := by
    intro action member
    obtain ⟨role, _, rfl⟩ := List.mem_map.mp member
    rfl
  have onlyDeletes (effect : Effect) (other : effect ≠ .delete) :
      Plan.withEffect (surplus.map pass.deleteRole) effect = 0 :=
    Plan.withEffect_eq_zero fun action member same => other (same.symm.trans (deletes action member))
  obtain ⟨count, kept⟩ := Plan.written_of_writes fun action member =>
    (written action member).imp (congrArg Operation.Kind.effect) (congrArg Operation.Kind.effect)
  rw [parts, Plan.withEffect_append, Plan.withEffect_append, Plan.withEffect_append, kept,
    onlyDeletes .create (by decide), onlyDeletes .update (by decide), Plan.withEffect_eq_length deletes,
    List.length_map, Nat.zero_add, Nat.zero_add, count]
  exact ⟨once, rfl⟩

theorem clientAction_operation (observation : Observation) :
    (pass.clientAction observation).operation =
      if observation.client = none then .createClient pass.resource pass.realm
      else .updateClient pass.resource pass.realm := by
  rcases observation with ⟨_, _ | _, _, _⟩ <;> rfl

theorem secretAction_operation (observation : Observation) :
    (pass.secretAction observation).operation =
      match observation.clientSecret with
      | none => .createSecret (Credentials.fresh pass.resource)
      | some observed => .updateSecret (Credentials.refresh pass.resource observed) := by
  rcases observation with ⟨_, _, _ | _, _⟩ <;> rfl

-- What is done about the client itself, before its roles.
def groundwork (observation : Observation) : Plan :=
  [ping, pass.clientAction observation, pass.secretAction observation]

theorem mem_groundwork {observation : Observation} {action : Action} (member : action ∈ pass.groundwork observation) :
    action = ping ∨ action = pass.clientAction observation ∨ action = pass.secretAction observation := by
  simpa [groundwork] using member

theorem groundwork_serves (observation : Observation) :
    ∀ action ∈ pass.groundwork observation, action.operation.Serves pass.resource pass.realm := by
  intro action member
  rcases pass.mem_groundwork member with rfl | rfl | rfl
  · trivial
  · rw [clientAction_operation]
    split <;> exact ⟨rfl, rfl⟩
  · rw [secretAction_operation]
    split <;> trivial

theorem groundwork_counts (observation : Observation) :
    (pass.groundwork observation).withEffect .create + (pass.groundwork observation).withEffect .update = 2 ∧
      (pass.groundwork observation).withEffect .delete = 0 := by
  rcases observation with ⟨_, _ | _, _ | _, _⟩ <;> exact ⟨rfl, rfl⟩

end Pass

namespace Resource

variable (resource : Resource) (observation : Observation)

theorem plan_of_going (going : resource.metadata.deletionTimestamp.isSome) :
    resource.plan observation = [Pass.ping, (Pass.of observation resource).deleteClient] := by
  rw [plan, beingDeleted, going, if_pos rfl]

theorem plan_of_staying (stays : resource.metadata.deletionTimestamp = none) :
    resource.plan observation = (Pass.of observation resource).groundwork observation ++
      (Pass.of observation resource).rolePlan resource.spec.roles observation.roles := by
  rw [plan, beingDeleted, stays, Option.isSome_none, if_neg Bool.false_ne_true, rolePlan, Pass.groundwork]

theorem plan_serves : ∀ action ∈ resource.plan observation,
    action.operation.Serves resource (Pass.of observation resource).realm := by
  intro action member
  cases marked : resource.metadata.deletionTimestamp with
  | some instant =>
    rw [plan_of_going resource observation (by rw [marked, Option.isSome_some])] at member
    rcases List.mem_cons.mp member with rfl | last
    · trivial
    · rw [List.mem_singleton.mp last]
      exact ⟨rfl, rfl⟩
  | none =>
    rw [plan_of_staying resource observation marked] at member
    rcases List.mem_append.mp member with own | ofRole
    · exact (Pass.of observation resource).groundwork_serves observation action own
    · exact (Pass.of observation resource).rolePlan_serves _ _ action ofRole

theorem summary_of_staying (stays : resource.metadata.deletionTimestamp = none) :
    (resource.plan observation).summary.creates + (resource.plan observation).summary.updates =
        2 + resource.spec.roles.length ∧
      (resource.plan observation).summary.deletes =
        (observation.roles.filter fun old => ¬ Role.Matched resource.spec.roles old).length := by
  obtain ⟨own, ownKept⟩ := (Pass.of observation resource).groundwork_counts observation
  obtain ⟨written, deleted⟩ := (Pass.of observation resource).rolePlan_counts resource.spec.roles observation.roles
  simp only [Plan.summary, plan_of_staying resource observation stays, Plan.withEffect_append, deleted, ownKept]
  exact ⟨by omega, Nat.zero_add _⟩

theorem plan_checks_once : (resource.plan observation).head? = some Pass.ping ∧
    ∀ action ∈ (resource.plan observation).tail, action.kind ≠ .ping := by
  cases marked : resource.metadata.deletionTimestamp with
  | some instant =>
    rw [plan_of_going resource observation (by rw [marked, Option.isSome_some])]
    refine ⟨rfl, fun action member => Action.kind_ne_ping_of_mutating ?_⟩
    rw [List.mem_singleton.mp member]
    rfl
  | none =>
    rw [plan_of_staying resource observation marked, Pass.groundwork]
    refine ⟨rfl, fun action member => Action.kind_ne_ping_of_mutating ?_⟩
    rcases List.mem_cons.mp member with rfl | later
    · exact Pass.clientAction_mutating _ _
    · rcases List.mem_cons.mp later with rfl | role
      · exact Pass.secretAction_mutating _ _
      · exact Pass.rolePlan_mutating _ _ _ action role

end Resource

-- A plan checks, and then it takes the client away, or it brings about the client, its secret and its roles, where
-- roles that nobody asked for go first. Whatever it does is done to the one client in the one realm, and nothing
-- that is asked for is left out or done twice.
theorem plan_layout (resource : Resource) (observation : Observation) :
    let realm := if observation.realm = "" then resource.spec.realm else observation.realm
    let plan := resource.plan observation
    let surplus := observation.roles.filter fun old => ¬ Role.Matched resource.spec.roles old
    (plan.head? = some Pass.ping ∧ ∀ action ∈ plan.tail, action.kind ≠ .ping) ∧
    (∀ action ∈ plan, action.operation.Serves resource realm) ∧
    (resource.metadata.deletionTimestamp.isSome →
      plan.map (·.operation) = [.ping, .deleteClient resource realm]) ∧
    (resource.metadata.deletionTimestamp = none →
      (∃ client secret writes,
        plan = Pass.ping :: client :: secret :: (surplus.map (Pass.of observation resource).deleteRole ++ writes) ∧
        client.operation = (if observation.client = none then .createClient resource realm
          else .updateClient resource realm) ∧
        secret.operation = (match observation.clientSecret with
          | none => .createSecret (Credentials.fresh resource)
          | some observed => .updateSecret (Credentials.refresh resource observed)) ∧
        surplus.map (Pass.of observation resource).deleteRole ++ writes =
          (Pass.of observation resource).rolePlan resource.spec.roles observation.roles ∧
        ∀ action ∈ writes, action.kind = .createRole ∨ action.kind = .updateRole) ∧
      plan.summary.creates + plan.summary.updates = 2 + resource.spec.roles.length ∧
      plan.summary.deletes = surplus.length) := by
  intro realm plan surplus
  let pass := Pass.of observation resource
  have sameRealm : pass.realm = realm := Pass.realm_of observation resource
  refine ⟨resource.plan_checks_once observation, ?_, fun going => ?_, fun stays => ⟨?_, ?_⟩⟩
  · rw [← sameRealm]
    exact resource.plan_serves observation
  · rw [← sameRealm, show plan = _ from resource.plan_of_going observation going]
    rfl
  · obtain ⟨writes, parts, _, written⟩ := pass.rolePlan_parts resource.spec.roles observation.roles
    refine ⟨pass.clientAction observation, pass.secretAction observation, writes, ?_, ?_, ?_, parts.symm, written⟩
    · rw [← parts]
      exact resource.plan_of_staying observation stays
    · rw [← sameRealm]
      exact pass.clientAction_operation observation
    · exact pass.secretAction_operation observation
  · exact resource.summary_of_staying observation stays

-- One role is renamed, one is created and one goes. Once the resource itself is to go, none of this is planned.
theorem plan_layout_rename_then_deletion :
    let resource : Resource :=
      { metadata := {}
        spec := { realm := "main", client := { clientId := "app" }, roles := [Role.withId "1" "b", Role.named "a"] } }
    let going : Resource := { resource with metadata := { deletionTimestamp := some default } }
    let observation : Observation := { roles := [Role.withId "1" "a", Role.withId "2" "c"] }
    (resource.metadata.deletionTimestamp = none ∧
      (resource.plan observation).summary.creates + (resource.plan observation).summary.updates = 4 ∧
      (resource.plan observation).summary.deletes = 1) ∧
    going.metadata.deletionTimestamp.isSome ∧
      (going.plan observation).map (·.operation) = [.ping, .deleteClient going "main"] := by
  intro resource going observation
  obtain ⟨_, _, _, staying⟩ := plan_layout resource observation
  obtain ⟨_, _, gone, _⟩ := plan_layout going observation
  exact ⟨⟨rfl, (staying rfl).2.1, (staying rfl).2.2⟩, rfl, gone rfl⟩

end RealmPlan
