import RealmPlan.Proofs.Classification

namespace RealmPlan
namespace Role

-- Some role of a list denotes the same, as one comparison after the other tells.
def Matched (others : List Role) (role : Role) : Prop := ∃ other ∈ others, other.denotesSame role

instance (others : List Role) : DecidablePred (Matched others) := fun role =>
  inferInstanceAs (Decidable (∃ other ∈ others, other.denotesSame role))

-- Ids of observed roles may repeat, and then the last one counts.
def lastWithId? (observed : List Role) (id : String) : Option Role :=
  (observed.filter fun old => old.id == id).getLast?

-- A declared id goes on under another name than the one that was observed for it.
def Vacated (declared observed : List Role) (name : String) : Prop :=
  ∃ pin ∈ declared, pin.hasId ∧ ∃ old ∈ lastWithId? observed pin.id, old.name = name ∧ old.name ≠ pin.name

instance (declared observed : List Role) : DecidablePred (Vacated declared observed) := fun name =>
  inferInstanceAs (Decidable (∃ pin ∈ declared, pin.hasId ∧
    ∃ old ∈ lastWithId? observed pin.id, old.name = name ∧ old.name ≠ pin.name))

theorem anyDenotesSame_eq_decide (others : List Role) (role : Role) :
    anyDenotesSame others role = decide (Matched others role) := by
  rw [Bool.eq_iff_iff, decide_eq_true_iff, anyDenotesSame, List.any_eq_true]
  rfl

-- The index decides as one comparison after the other would. So each role of a list is on the side that the
-- comparisons put it on, in order and as often as it occurs, and none is on both sides or on neither.
theorem split_agrees_with_scan (source others : List Role) :
    (∀ role, (Index.ofList others).covers role = anyDenotesSame others role) ∧
      (split source others).1 = source.filter (fun role => !anyDenotesSame others role) ∧
      (split source others).2 = source.filter (fun role => anyDenotesSame others role) ∧
      ((split source others).1 ++ (split source others).2).Perm source ∧
      (∀ role, role ∈ (split source others).1 ↔ role ∈ source ∧ ¬ Matched others role) ∧
      ∀ role, role ∈ (split source others).2 ↔ role ∈ source ∧ Matched others role := by
  have decided (role : Role) : anyDenotesSame others role = true ↔ Matched others role := by
    rw [anyDenotesSame_eq_decide, decide_eq_true_iff]
  refine ⟨Index.covers_ofList others, ?_, ?_, ?_, ?_, ?_⟩
  · rw [split_eq]
  · rw [split_eq]
  · rw [split_eq]
    exact List.perm_append_comm.trans (List.filter_append_perm (anyDenotesSame others) source)
  · intro role
    rw [split_eq, List.mem_filter, Bool.not_eq_true', ← Bool.not_eq_true, decided]
  · intro role
    rw [split_eq, List.mem_filter, decided]

-- Denoting the same is not transitive: the first two roles have different ids, and both of them are matched by the
-- name of a role that has none.
example : split [withId "1" "a", withId "2" "a", withId "1" "b", named "b"] [named "a", withId "3" "b"] =
    ([withId "1" "b"], [withId "1" "a", withId "2" "a", named "b"]) := by
  rw [split_eq]
  rfl

theorem find_reverse_eq_last (observed : List Role) (id : String) :
    (observed.reverse.find? fun old => old.id == id) = lastWithId? observed id := by
  rw [lastWithId?, ← List.head?_filter, List.filter_reverse, List.head?_reverse]

theorem mem_of_lastWithId {observed : List Role} {id : String} {old : Role}
    (last : lastWithId? observed id = some old) : old ∈ observed ∧ old.id = id := by
  obtain ⟨member, same⟩ := List.mem_filter.mp (List.mem_of_getLast? last)
  exact ⟨member, eq_of_beq same⟩

theorem matched_of_lastWithId {observed : List Role} {role old : Role} (numbered : role.hasId)
    (last : lastWithId? observed role.id = some old) : Matched observed role := by
  obtain ⟨member, same⟩ := mem_of_lastWithId last
  have oldNumbered := hasId_of_same_id same numbered
  exact ⟨old, member, by simp [denotesSame, numbered, oldNumbered, same]⟩

namespace Change

theorem mem_vacated_iff {declared observed : List Role} {name : String} :
    name ∈ vacated declared observed ↔ Vacated declared observed name := by
  simp only [vacated, updates, known, List.mem_filterMap, List.mem_map, List.mem_filter, anyDenotesSame_eq_decide,
    decide_eq_true_eq]
  constructor
  · intro leaves
    obtain ⟨_, ⟨role, ⟨⟨isDeclared, _⟩, numbered⟩, rfl⟩, left⟩ := leaves
    rw [pinned, find_reverse_eq_last] at left
    cases last : lastWithId? observed role.id with
    | none =>
      rw [last] at left
      cases left
    | some old =>
      simp only [last, vacates?, Option.ite_none_left_eq_some, Option.some.injEq] at left
      exact ⟨role, isDeclared, numbered, old, last, left.2, Ne.symm left.1⟩
  · intro vacates
    obtain ⟨role, isDeclared, numbered, old, last, rfl, renamed⟩ := vacates
    refine ⟨.update role old, ⟨role, ⟨⟨isDeclared, matched_of_lastWithId numbered last⟩, numbered⟩, ?_⟩, ?_⟩
    · rw [pinned, find_reverse_eq_last, Option.mem_def.mp last]
    · simp [vacates?, Ne.symm renamed]

end Change
end Role

open Role Role.Change

-- The role that a call writes, and the one that it takes away.
def Operation.written? : Operation → Option Role
  | createRole role _ _ | updateRole role _ _ _ => some role
  | _ => none

def Operation.deleted? : Operation → Option Role
  | deleteRole role _ _ => some role
  | _ => none

namespace Pass

def renew (pass : Pass) (declared observed : List Role) (role : Role) : Action :=
  if Vacated declared observed role.name then pass.createRole role else pass.updateRole role role

-- The actions for two lists of roles, each of them found by comparing every role with every other.
def scanPlan (pass : Pass) (declared observed : List Role) : Plan :=
  (observed.filter fun old => ¬ Matched declared old).map pass.deleteRole ++
    (declared.filter fun role => Matched observed role ∧ role.hasId).map
      (fun role => pass.updateRole role ((lastWithId? observed role.id).getD role)) ++
    (declared.filter fun role => Matched observed role ∧ ¬ role.hasId).map (pass.renew declared observed) ++
    (declared.filter fun role => ¬ Matched observed role).map pass.createRole

theorem roleAction_pinned (pass : Pass) (observed : List Role) (role : Role) :
    pass.roleAction (pinned observed role) = pass.updateRole role ((lastWithId? observed role.id).getD role) := by
  rw [pinned, find_reverse_eq_last]
  cases lastWithId? observed role.id <;> rfl

theorem roleAction_named (pass : Pass) (declared observed : List Role) (role : Role) :
    pass.roleAction (Change.named (vacated declared observed) role) = pass.renew declared observed role := by
  by_cases left : Vacated declared observed role.name
  · simp [Change.named, mem_vacated_iff, renew, left, roleAction]
  · simp [Change.named, mem_vacated_iff, renew, left, roleAction]

theorem rolePlan_scan (pass : Pass) (declared observed : List Role) :
    pass.rolePlan declared observed = pass.scanPlan declared observed := by
  have deletions : surplus declared observed = observed.filter fun old => ¬ Matched declared old := by
    simp only [surplus, anyDenotesSame_eq_decide, decide_not]
  have numbered : (known declared observed).filter (·.hasId) =
      declared.filter fun role => Matched observed role ∧ role.hasId := by
    simp only [known, anyDenotesSame_eq_decide, List.filter_filter, Bool.decide_and, Bool.decide_eq_true, Bool.and_comm]
  have unnumbered : byName declared observed =
      declared.filter fun role => Matched observed role ∧ ¬ role.hasId := by
    simp only [byName, known, anyDenotesSame_eq_decide, List.filter_filter, Bool.decide_and, decide_not,
      Bool.decide_eq_true, Bool.and_comm]
  have creations : missing declared observed = declared.filter fun role => ¬ Matched observed role := by
    simp only [missing, anyDenotesSame_eq_decide, decide_not]
  have updated : pass.roleAction ∘ pinned observed =
      fun role => pass.updateRole role ((lastWithId? observed role.id).getD role) :=
    funext (pass.roleAction_pinned observed)
  have renewed : pass.roleAction ∘ Change.named (vacated declared observed) = pass.renew declared observed :=
    funext (pass.roleAction_named declared observed)
  simp only [rolePlan, all_eq, updates, List.map_append, List.map_map, deletions, numbered, unnumbered, creations,
    updated, renewed, scanPlan]
  rfl

section Roles

variable (pass : Pass) (declared observed : List Role) (role old : Role)

@[simp] theorem written_createRole : (pass.createRole role).operation.written? = some role := rfl
@[simp] theorem written_updateRole : (pass.updateRole role old).operation.written? = some role := rfl
@[simp] theorem written_deleteRole : (pass.deleteRole old).operation.written? = none := rfl

@[simp] theorem deleted_createRole : (pass.createRole role).operation.deleted? = none := rfl
@[simp] theorem deleted_updateRole : (pass.updateRole role old).operation.deleted? = none := rfl
@[simp] theorem deleted_deleteRole : (pass.deleteRole old).operation.deleted? = some old := rfl

@[simp] theorem written_renew : (pass.renew declared observed role).operation.written? = some role := by
  unfold renew
  split <;> rfl

@[simp] theorem deleted_renew : (pass.renew declared observed role).operation.deleted? = none := by
  unfold renew
  split <;> rfl

-- The three segments that write declared roles leave none out and meet none twice.
theorem segments_perm :
    ((declared.filter fun role => Matched observed role ∧ role.hasId) ++
      (declared.filter fun role => Matched observed role ∧ ¬ role.hasId) ++
      declared.filter fun role => ¬ Matched observed role).Perm declared := by
  have matched := List.filter_append_perm (·.hasId) (declared.filter fun role => Matched observed role)
  have parted := List.filter_append_perm (fun role => decide (Matched observed role)) declared
  refine (List.Perm.append_right _ (.trans (.of_eq ?_) matched)).trans (.trans (.of_eq ?_) parted)
  · simp [List.filter_filter, Bool.and_comm]
  · simp

theorem scanPlan_written :
    ((pass.scanPlan declared observed).filterMap (·.operation.written?)).Perm declared := by
  refine .trans (.of_eq ?_) (segments_perm declared observed)
  simp [scanPlan, List.filterMap_append, List.filterMap_map, Function.comp_def]

theorem scanPlan_deleted :
    (pass.scanPlan declared observed).filterMap (·.operation.deleted?) =
      observed.filter fun old => ¬ Matched declared old := by
  simp [scanPlan, List.filterMap_append, List.filterMap_map, Function.comp_def]

end Roles

-- Without any assumption on the two lists the plan is what the scan finds, behind whatever has been
-- planned before. So it writes every declared role once, and it deletes what nothing declared denotes.
theorem rolePlan_eq_scan (pass : Pass) (earlier : Plan) (declared observed : List Role) :
    earlier ++ pass.rolePlan declared observed = earlier ++ pass.scanPlan declared observed ∧
      ((pass.rolePlan declared observed).filterMap (·.operation.written?)).Perm declared ∧
      (pass.rolePlan declared observed).filterMap (·.operation.deleted?) =
        (observed.filter fun old => ¬ Matched declared old) ∧
      ∀ old, (∃ action ∈ pass.rolePlan declared observed, action.operation.deleted? = some old) ↔
        old ∈ observed ∧ ∀ role ∈ declared, role.denotesSame old = false := by
  rw [rolePlan_scan]
  refine ⟨rfl, pass.scanPlan_written declared observed, pass.scanPlan_deleted declared observed, ?_⟩
  intro old
  rw [← List.mem_filterMap, scanPlan_deleted, List.mem_filter]
  simp [Matched]

-- Two observed roles share an id: the last one is renamed, and the name it leaves is created again.
example (pass : Pass) :
    pass.rolePlan [withId "1" "a", named "b"] [withId "1" "c", withId "1" "b"] =
      [pass.updateRole (withId "1" "a") (withId "1" "b"), pass.createRole (named "b")] := by
  rw [rolePlan_scan]
  rfl

end Pass
end RealmPlan
