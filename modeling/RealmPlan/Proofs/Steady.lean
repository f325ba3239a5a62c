import RealmPlan.Proofs.Scan

namespace RealmPlan
open Role

namespace Role

-- Declaration and observation agree: everyone is known on the other side, and an id that is declared and observed
-- has the declared name. Names and ids may repeat on either side, so this is no one-to-one pairing.
structure Steady (declared observed : List Role) : Prop where
  wanted : ∀ old ∈ observed, Matched declared old
  present : ∀ role ∈ declared, Matched observed role
  named : ∀ role ∈ declared, role.hasId → ∀ old ∈ lastWithId? observed role.id, old.name = role.name

variable {declared observed : List Role}

theorem Steady.not_vacated (steady : Steady declared observed) (name : String) : ¬ Vacated declared observed name := by
  intro vacated
  obtain ⟨pin, isDeclared, numbered, old, last, _, renamed⟩ := vacated
  exact renamed (steady.named pin isDeclared numbered old last)

end Role

-- An action that leaves every role where it is and under the name that it has.
structure Action.Quiet (action : Action) : Prop where
  makes_none : action.effect ≠ .create
  drops_none : action.effect ≠ .delete
  renames_none : action.isRename = false

namespace Pass
variable (pass : Pass) (declared observed : List Role) (role old : Role)

theorem createRole_not_quiet : ¬ (pass.createRole role).Quiet := fun quiet => quiet.makes_none rfl

theorem deleteRole_not_quiet : ¬ (pass.deleteRole old).Quiet := fun quiet => quiet.drops_none rfl

theorem updateRole_quiet_iff : (pass.updateRole role old).Quiet ↔ old.name = role.name := by
  have renames : (pass.updateRole role old).isRename = (role.name != old.name) := rfl
  constructor
  · intro quiet
    have kept := quiet.renames_none
    rw [renames, bne_eq_false_iff_eq] at kept
    exact kept.symm
  · intro same
    refine ⟨nofun, nofun, ?_⟩
    rw [renames, same, bne_self_eq_false]

-- A role without an id is never renamed, so only the rename of another one can disturb it.
theorem renew_quiet_iff : (pass.renew declared observed role).Quiet ↔ ¬ Vacated declared observed role.name := by
  unfold renew
  split
  · rename_i vacated
    exact iff_of_false (pass.createRole_not_quiet role) (not_not.mpr vacated)
  · rename_i unvacated
    exact iff_of_true ((pass.updateRole_quiet_iff role role).mpr rfl) unvacated

-- The role that an id update starts from is the declared one where its id is unknown, and then no name changes.
theorem pinned_quiet_iff :
    (pass.updateRole role ((lastWithId? observed role.id).getD role)).Quiet ↔
      ∀ old ∈ lastWithId? observed role.id, old.name = role.name := by
  rw [updateRole_quiet_iff]
  cases lastWithId? observed role.id with
  | none => simp
  | some old => simp

theorem quiet_map_iff {roles : List Role} {act : Role → Action} :
    (∀ action ∈ roles.map act, action.Quiet) ↔ ∀ role ∈ roles, (act role).Quiet :=
  List.forall_mem_map

-- Segment by segment: what disturbs a deletion or a creation is that it is there at all.
theorem scanPlan_quiet_iff :
    (∀ action ∈ pass.scanPlan declared observed, action.Quiet) ↔
      (∀ old ∈ observed, Matched declared old) ∧
      (∀ role ∈ declared, Matched observed role → role.hasId →
        ∀ old ∈ lastWithId? observed role.id, old.name = role.name) ∧
      (∀ role ∈ declared, Matched observed role → ¬ role.hasId → ¬ Vacated declared observed role.name) ∧
      ∀ role ∈ declared, Matched observed role := by
  simp only [scanPlan, List.forall_mem_append, quiet_map_iff, List.mem_filter, decide_eq_true_eq, deleteRole_not_quiet,
    createRole_not_quiet, pinned_quiet_iff, renew_quiet_iff, and_assoc, imp_false, not_and, not_not, and_imp]

theorem scanPlan_quiet_iff_steady :
    (∀ action ∈ pass.scanPlan declared observed, action.Quiet) ↔ Steady declared observed := by
  rw [scanPlan_quiet_iff]
  constructor
  · intro quiet
    obtain ⟨wanted, named, _, present⟩ := quiet
    exact ⟨wanted, present, fun role isDeclared => named role isDeclared (present role isDeclared)⟩
  · intro steady
    exact ⟨steady.wanted, fun role isDeclared _ => steady.named role isDeclared,
      fun role _ _ _ => steady.not_vacated role.name, steady.present⟩

-- The updates that are left when nothing has to come, go or change its name.
def upkeep : Plan :=
  (declared.filter (·.hasId)).map (fun role => pass.updateRole role ((lastWithId? observed role.id).getD role)) ++
    (declared.filter (!·.hasId)).map fun role => pass.updateRole role role

theorem upkeep_length : (pass.upkeep declared observed).length = declared.length := by
  rw [upkeep, List.length_append, List.length_map, List.length_map, ← List.length_append]
  exact (List.filter_append_perm (·.hasId) declared).length_eq

theorem scanPlan_steady (steady : Steady declared observed) :
    pass.scanPlan declared observed = pass.upkeep declared observed := by
  have deletions : (observed.filter fun old => ¬ Matched declared old) = [] := by
    simpa [List.filter_eq_nil_iff] using steady.wanted
  have creations : (declared.filter fun role => ¬ Matched observed role) = [] := by
    simpa [List.filter_eq_nil_iff] using steady.present
  have numbered : (declared.filter fun role => Matched observed role ∧ role.hasId) = declared.filter (·.hasId) :=
    List.filter_congr fun role isDeclared => by simp [steady.present role isDeclared]
  have unnumbered :
      (declared.filter fun role => Matched observed role ∧ ¬ role.hasId) = declared.filter (!·.hasId) :=
    List.filter_congr fun role isDeclared => by simp [steady.present role isDeclared]
  have renewed : pass.renew declared observed = fun role => pass.updateRole role role :=
    funext fun role => if_neg (steady.not_vacated role.name)
  rw [scanPlan, deletions, creations, numbered, unnumbered, renewed, List.map_nil, List.map_nil, List.nil_append,
    List.append_nil, upkeep]

-- A plan for roles is quiet exactly in the steady state, and there it is one update for each declared role: first
-- those with an id, each from the role last observed under it, then the others as they are.
theorem rolePlan_quiet_iff_steady :
    ((∀ action ∈ pass.rolePlan declared observed, action.Quiet) ↔ Steady declared observed) ∧
      (Steady declared observed →
        pass.rolePlan declared observed =
            (declared.filter (·.hasId)).map
                (fun role => pass.updateRole role ((lastWithId? observed role.id).getD role)) ++
              (declared.filter (!·.hasId)).map (fun role => pass.updateRole role role) ∧
          (pass.rolePlan declared observed).length = declared.length ∧
          ∀ action ∈ pass.rolePlan declared observed, action.kind = .updateRole) := by
  rw [rolePlan_scan]
  refine ⟨pass.scanPlan_quiet_iff_steady declared observed, fun steady => ?_⟩
  rw [pass.scanPlan_steady declared observed steady]
  refine ⟨rfl, pass.upkeep_length declared observed, ?_⟩
  intro action member
  rcases List.mem_append.mp member with numbered | unnumbered
  · obtain ⟨role, _, rfl⟩ := List.mem_map.mp numbered
    rfl
  · obtain ⟨role, _, rfl⟩ := List.mem_map.mp unnumbered
    rfl

-- Two observed roles share an id, and only the last of them has the declared name; another declared id is unknown,
-- and an observed role without id has its name.
theorem rolePlan_quiet_repeated_id :
    let declared := [Role.named "writer", Role.withId "1" "reader", Role.withId "9" "viewer"]
    let observed :=
      [Role.withId "1" "guest", Role.withId "1" "reader", Role.withId "2" "writer", Role.named "viewer"]
    let pass := Pass.of {} default
    Steady declared observed ∧
      pass.rolePlan declared observed =
        [pass.updateRole (Role.withId "1" "reader") (Role.withId "1" "reader"),
         pass.updateRole (Role.withId "9" "viewer") (Role.withId "9" "viewer"),
         pass.updateRole (Role.named "writer") (Role.named "writer")] := by
  intro declared observed pass
  have steady : Steady declared observed := ⟨by decide, by decide, by decide⟩
  exact ⟨steady, ((rolePlan_quiet_iff_steady pass declared observed).2 steady).1⟩

end Pass
end RealmPlan
