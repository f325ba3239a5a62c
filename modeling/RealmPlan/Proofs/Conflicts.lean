import RealmPlan.Proofs.Advance

namespace RealmPlan

-- The actions that are attempted in vain, in the order in which they are.
def Execution.failed : Execution → Plan
  | finished attempts => (attempts.filter (·.failed)).map (·.action)
  | halted attempts check _ => (attempts.filter (·.failed)).map (·.action) ++ [check]

namespace Keeper
open Role Role.Change

variable {keeper : Keeper} {store : Store}

-- The actions of a plan that a realm refuses, when it meets all of them one after the other.
def refused (keeper : Keeper) (store : Store) : Plan → Plan
  | [] => []
  | action :: rest =>
    match keeper store action.operation with
    | some next => refused keeper next rest
    | none => action :: refused keeper store rest

theorem refused_append (keeper : Keeper) (store : Store) (first second : Plan) :
    refused keeper store (first ++ second) =
      refused keeper store first ++ refused keeper (keeper.after store (first.map (·.operation))) second := by
  induction first generalizing store with
  | nil => rfl
  | cons action rest ih =>
    rw [List.cons_append, List.map_cons, after_cons, refused, refused]
    cases keeper store action.operation with
    | none => exact congrArg (action :: ·) (ih store)
    | some next => exact ih next

theorem refused_of_applyAll {plan : Plan} {final : Store}
    (applied : keeper.applyAll store (plan.map (·.operation)) = some final) : refused keeper store plan = [] := by
  induction plan generalizing store with
  | nil => rfl
  | cons action rest ih =>
    rw [List.map_cons, applyAll_cons] at applied
    obtain ⟨next, accepted, applied⟩ := Option.bind_eq_some_iff.mp applied
    rw [refused, accepted]
    exact ih applied

-- What a realm answers tells what it has refused.
theorem failed_of_trace {attempts : List Attempt} (trace : Execution.Trace (keeper.transport store) attempts) :
    (attempts.filter (·.failed)).map (·.action) = refused keeper store (attempts.map (·.action)) := by
  induction trace with
  | nil => rfl
  | @snoc done action _ ih =>
    have operations : (done.map (·.action)).map (·.operation) = done.map (·.action.operation) := List.map_map
    rw [List.filter_append, List.map_append, List.map_append, refused_append, ih, operations, List.map_singleton,
      refused, transport]
    cases keeper (keeper.after store (done.map (·.action.operation))) action.operation <;> rfl

-- A role plan met by a realm that keeps what it keeps.
def execution (keeper : Keeper) (pass : Pass) (abortOnUnavailable : Bool) (declared : List Role)
    (store : Store) : Execution :=
  Execution.run (keeper.transport store) abortOnUnavailable (pass.rolePlan declared store.roles)

theorem execution_failed (keeper : Keeper) (pass : Pass) (abort : Bool) (declared : List Role) (store : Store) :
    (keeper.execution pass abort declared store).failed =
      refused keeper store (pass.rolePlan declared store.roles) := by
  obtain ⟨attempts, finished, actions, trace⟩ := Execution.run_of_mutating (keeper.transport store) abort
    (pass.rolePlan_mutating declared store.roles)
  rw [execution, finished, Execution.failed, failed_of_trace trace, actions]

variable {reserved : List String} {roles : List Role} {pins : List (Role × Role)} {pin later : Role × Role}
  {declared observed : List Role}

-- The pinned updates that are refused, each of them where its turn comes.
def denied (roles : List Role) : List (Role × Role) → List (Role × Role)
  | [] => []
  | pin :: rest =>
    if mayTake roles pin then denied (roles.map (settled [pin.1])) rest else pin :: denied roles rest

theorem mayTake_eq_false_iff : mayTake roles pin = false ↔
    pin.1.name ≠ pin.2.name ∧ ∃ kept ∈ roles, kept.name = pin.1.name := by
  simp [mayTake]

theorem granted_or_denied (member : pin ∈ pins) : pin ∈ granted roles pins ∨ pin ∈ denied roles pins := by
  induction pins generalizing roles with
  | nil => cases member
  | cons first rest ih =>
    unfold granted denied
    split
    · rcases List.mem_cons.mp member with rfl | inRest
      · exact .inl List.mem_cons_self
      · exact (ih inRest).imp_left (List.mem_cons_of_mem first)
    · rcases List.mem_cons.mp member with rfl | inRest
      · exact .inr List.mem_cons_self
      · exact (ih inRest).imp_right (List.mem_cons_of_mem first)

-- Only a role that is to change its name is denied.
theorem mem_denied (member : pin ∈ denied roles pins) : pin ∈ pins ∧ pin.1.name ≠ pin.2.name := by
  induction pins generalizing roles with
  | nil => cases member
  | cons first rest ih =>
    unfold denied at member
    split at member
    · exact (ih member).imp_left (List.mem_cons_of_mem first)
    · rename_i refused
      rw [Bool.not_eq_true, mayTake_eq_false_iff] at refused
      rcases List.mem_cons.mp member with rfl | inRest
      · exact ⟨List.mem_cons_self, refused.1⟩
      · exact (ih inRest).imp_left (List.mem_cons_of_mem first)

-- The name is not free yet, as long as the turn of its holder is still to come.
theorem denied_of_later (once : (pins.map (·.1.id)).Nodup) (kept : ∀ pin ∈ pins, pin.2 ∈ roles ∧ pin.2.id = pin.1.id)
    (order : [pin, later].Sublist pins) (renamed : pin.1.name ≠ pin.2.name) (taken : later.2.name = pin.1.name) :
    pin ∈ denied roles pins := by
  induction pins generalizing roles with
  | nil => cases order
  | cons first rest ih =>
    obtain ⟨apart, restOnce⟩ := List.nodup_cons.mp once
    have keptRest := fun other inRest => kept other (List.mem_cons_of_mem first inRest)
    unfold denied
    cases order with
    | cons _ order =>
      split
      · exact ih restOnce (pin_waits keptRest apart) order
      · exact List.mem_cons_of_mem _ (ih restOnce keptRest order)
    | cons_cons _ order =>
      have inRest := List.singleton_sublist.mp order
      have refused : mayTake roles pin = false :=
        mayTake_eq_false_iff.mpr ⟨renamed, later.2, (keptRest later inRest).1, taken⟩
      rw [if_neg (by simp [refused])]
      exact List.mem_cons_self

-- The first one that is denied has come before the holder of its name.
theorem first_denied (once : (pins.map (·.1.id)).Nodup) (names : (pins.map (·.1.name)).Nodup)
    (same : ∀ pin ∈ pins, pin.2.id = pin.1.id)
    (holders : ∀ role ∈ roles, ∀ pin ∈ pins, role.name = pin.1.name → ∃ other ∈ pins, other.2 = role)
    (first : (denied roles pins).head? = some pin) :
    ∃ later, [pin, later].Sublist pins ∧ later.2.name = pin.1.name := by
  induction pins generalizing roles with
  | nil => cases first
  | cons head rest ih =>
    obtain ⟨idApart, restOnce⟩ := List.nodup_cons.mp once
    obtain ⟨nameApart, restNames⟩ := List.nodup_cons.mp names
    unfold denied at first
    split at first
    · have holdersRest : ∀ role ∈ roles.map (settled [head.1]), ∀ pin ∈ rest, role.name = pin.1.name →
          ∃ other ∈ rest, other.2 = role := by
        intro role member pin inRest taken
        obtain ⟨before, beforeMember, rfl⟩ := List.mem_map.mp member
        rw [settled_cons] at taken ⊢
        split at taken
        -- Who has just moved has taken a name that nobody else is to take.
        · exact absurd (List.mem_map.mpr ⟨pin, inRest, taken.symm⟩) nameApart
        · rename_i unmoved
          rw [if_neg unmoved]
          obtain ⟨other, otherMember, rfl⟩ := holders before beforeMember pin (List.mem_cons_of_mem _ inRest) taken
          rcases List.mem_cons.mp otherMember with rfl | inRest
          · exact absurd (same other otherMember).symm unmoved
          · exact ⟨other, inRest, rfl⟩
      obtain ⟨later, order, taken⟩ := ih restOnce restNames
        (fun other inRest => same other (List.mem_cons_of_mem _ inRest)) holdersRest first
      exact ⟨later, order.cons head, taken⟩
    · rename_i refused
      rw [Bool.not_eq_true, mayTake_eq_false_iff] at refused
      obtain rfl : head = pin := Option.some.inj first
      obtain ⟨renamed, role, member, taken⟩ := refused
      obtain ⟨other, otherMember, rfl⟩ := holders role member head List.mem_cons_self taken
      rcases List.mem_cons.mp otherMember with rfl | inRest
      · exact absurd taken.symm renamed
      · exact ⟨other, (List.singleton_sublist.mpr inRest).cons_cons head, taken⟩

theorem refused_updatePins (issuer : Issuer reserved) (pass : Pass) (store : Store) (distinct : store.ids.Nodup)
    (names : (store.roles.map (·.name)).Nodup)
    (kept : ∀ pin ∈ pins, pin.2 ∈ store.roles ∧ pin.2.id = pin.1.id) (once : (pins.map (·.1.id)).Nodup) :
    refused (byName issuer) store (pins.map fun pin => pass.updateRole pin.1 pin.2) =
      (denied store.roles pins).map fun pin => pass.updateRole pin.1 pin.2 := by
  induction pins generalizing store with
  | nil => rfl
  | cons pin rest ih =>
    obtain ⟨apart, restOnce⟩ := List.nodup_cons.mp once
    obtain ⟨member, sameId⟩ := kept pin List.mem_cons_self
    have keptRest := fun other later => kept other (List.mem_cons_of_mem pin later)
    have step := byName_updatePin issuer pass distinct names member sameId
    rw [List.map_cons, refused, denied]
    by_cases may : mayTake store.roles pin = true
    · rw [if_pos may] at step ⊢
      have sameIds := ids_of_map (settled_id [pin.1]) store
      rw [step]
      exact ih _ (by rwa [sameIds]) (byName_names names step) (pin_waits keptRest apart) restOnce
    · rw [if_neg may] at step ⊢
      rw [step]
      exact congrArg (_ :: ·) (ih store distinct names keptRest restOnce)

-- Of the other roles only those are refused that are to be created under a name that is taken.
theorem refused_keepOrCreate (issuer : Issuer reserved) (pass : Pass) (store : Store)
    (once : (roles.map (·.name)).Nodup)
    (present : ∀ role ∈ roles, keeps declared observed role = true → role.name ∈ store.roles.map (·.name)) :
    refused (byName issuer) store (roles.map (pass.keepOrCreate declared observed)) =
      (roles.filter fun role => !keeps declared observed role && decide (role.name ∈ store.roles.map (·.name))).map
        pass.createRole := by
  induction roles generalizing store with
  | nil => rfl
  | cons role rest ih =>
    obtain ⟨apart, restOnce⟩ := List.nodup_cons.mp once
    have presentRest := fun other later => present other (List.mem_cons_of_mem _ later)
    rw [List.map_cons, refused]
    cases stays : keeps declared observed role with
    | true =>
      have sameNames : (store.roles.map (refreshed [role])).map (·.name) = store.roles.map (·.name) := by
        simp
      have step := byName_refresh issuer pass (present role List.mem_cons_self stays)
      have remains := ih { store with roles := store.roles.map (refreshed [role]) } restOnce (by rwa [sameNames])
      simp only [sameNames] at remains
      simp only [Pass.keepOrCreate, stays, if_true, step]
      rw [List.filter_cons_of_neg (by simp [stays])]
      exact remains
    | false =>
      have step := byName_create issuer pass store role
      simp only [Pass.keepOrCreate, stays, Bool.false_eq_true, if_false]
      by_cases taken : role.name ∈ store.roles.map (·.name)
      · rw [if_pos taken] at step
        rw [step, List.filter_cons_of_pos (by simpa [stays] using taken)]
        exact congrArg (_ :: ·) (ih store restOnce presentRest)
      · rw [if_neg taken] at step
        have sameTaken : (rest.filter fun other => !keeps declared observed other &&
              decide (other.name ∈ (store.make issuer role).roles.map (·.name))) =
            rest.filter fun other =>
              !keeps declared observed other && decide (other.name ∈ store.roles.map (·.name)) := by
          apply List.filter_congr
          intro other later
          have differ : other.name ≠ role.name := fun same => apart (List.mem_map.mpr ⟨other, later, same⟩)
          simp only [Store.mem_names_make, differ, or_false]
        have remains := ih (store.make issuer role) restOnce fun other later otherStays =>
          Store.mem_names_make.mpr (.inl (presentRest other later otherStays))
        rw [sameTaken] at remains
        rw [step, List.filter_cons_of_neg (by simpa [stays] using taken)]
        exact remains

end Keeper

namespace Role

-- A pinned role goes on under another name.
structure Renames (declared observed : List Role) (role old : Role) : Prop where
  declared : role ∈ declared
  numbered : role.hasId
  observed : old ∈ observed
  sameId : old.id = role.id
  renamed : role.name ≠ old.name

-- A pinned role is declared before another one that still has the name which it is to take.
structure Premature (declared observed : List Role) (role next : Role) : Prop where
  order : [role, next].Sublist declared
  pinned : role.hasId ∧ ∃ old ∈ observed, old.id = role.id
  holds : next.hasId ∧ ∃ old ∈ observed, old.id = next.id ∧ old.name = role.name

namespace Change
open Keeper

variable {declared observed : List Role} {role next old : Role} {pin later : Role × Role}

theorem pins_in_order (observes : Observed observed) (order : [pin.1, later.1].Sublist declared)
    (first : pin ∈ pins declared observed) (second : later ∈ pins declared observed) :
    [pin, later].Sublist (pins declared observed) := by
  obtain ⟨role, old⟩ := pin
  obtain ⟨next, other⟩ := later
  obtain ⟨_, numbered, member, same⟩ := (mem_pins observes).mp first
  obtain ⟨_, nextNumbered, otherMember, otherSame⟩ := (mem_pins observes).mp second
  have found := find_observed observes member same
  have otherFound := find_observed observes otherMember otherSame
  have sub := (order.filter (·.hasId)).filterMap fun role =>
    (observed.find? (·.id == role.id)).map fun old => (role, old)
  simpa [pins, numbered, nextNumbered, found, otherFound] using sub

theorem renames_of_denied (observes : Observed observed)
    (denies : pin ∈ denied (staying declared observed) (pins declared observed)) :
    Renames declared observed pin.1 pin.2 := by
  obtain ⟨member, renamed⟩ := mem_denied denies
  obtain ⟨isDeclared, numbered, oldMember, same⟩ := (mem_pins observes).mp member
  exact ⟨isDeclared, numbered, oldMember, same, renamed⟩

-- Whose name nobody else is to take over is in no pinned role's way.
theorem holders_pinned (declares : Declared declared) (observes : Observed observed) :
    ∀ kept ∈ staying declared observed, ∀ pin ∈ pins declared observed, kept.name = pin.1.name →
      ∃ other ∈ pins declared observed, other.2 = kept := by
  intro kept stays pin member taken
  obtain ⟨isDeclared, pinNumbered, _⟩ := (mem_pins observes).mp member
  obtain ⟨keptMember, heir, inherits⟩ := (mem_staying observes).mp stays
  cases numbered : heir.hasId with
  | true =>
    obtain ⟨heirDeclared, same⟩ := (inherits_numbered numbered).mp inherits
    exact ⟨(heir, kept), (mem_pins observes).mpr ⟨heirDeclared, numbered, keptMember, same⟩, rfl⟩
  | false =>
    obtain ⟨heirDeclared, sameName, _⟩ := (inherits_unnumbered numbered).mp inherits
    rw [declares.same_name heirDeclared isDeclared (sameName.symm.trans taken), pinNumbered] at numbered
    cases numbered

theorem denied_of_premature (declares : Declared declared) (observes : Observed observed)
    (premature : Premature declared observed role next) :
    ∃ old, (role, old) ∈ denied (staying declared observed) (pins declared observed) := by
  obtain ⟨order, ⟨numbered, old, member, same⟩, nextNumbered, other, otherMember, otherSame, taken⟩ := premature
  have isDeclared : role ∈ declared := order.subset List.mem_cons_self
  have nextDeclared : next ∈ declared := order.subset (List.mem_cons_of_mem _ List.mem_cons_self)
  have pin : (role, old) ∈ pins declared observed := (mem_pins observes).mpr ⟨isDeclared, numbered, member, same⟩
  have later : (next, other) ∈ pins declared observed :=
    (mem_pins observes).mpr ⟨nextDeclared, nextNumbered, otherMember, otherSame⟩
  refine ⟨old, denied_of_later (pins_ids_nodup declares) (fun pin member => ?_)
    (pins_in_order observes order pin later) (fun unrenamed => ?_) taken⟩
  · exact ⟨pin_stays observes member, ((mem_pins observes).mp member).2.2.2⟩
  -- Else it would be the same observed role that both of them are pinned to.
  · have one := observes.same_name otherMember member (taken.trans unrenamed)
    have twice := declares.same_id nextDeclared isDeclared numbered (by rw [← otherSame, one, same])
    rw [twice] at order
    exact (List.nodup_cons.mp (order.nodup declares.nodup)).1 List.mem_cons_self

theorem premature_of_first (declares : Declared declared) (observes : Observed observed)
    (first : (denied (staying declared observed) (pins declared observed)).head? = some pin) :
    ∃ next, Premature declared observed pin.1 next := by
  have same : ∀ pin ∈ pins declared observed, pin.2.id = pin.1.id :=
    fun pin member => ((mem_pins observes).mp member).2.2.2
  obtain ⟨later, order, taken⟩ := first_denied (pins_ids_nodup declares) (pins_names_nodup declares) same
    (holders_pinned declares observes) first
  obtain ⟨_, numbered, member, sameId⟩ := (mem_pins observes).mp (order.subset List.mem_cons_self)
  obtain ⟨_, nextNumbered, otherMember, otherSame⟩ :=
    (mem_pins observes).mp (order.subset (List.mem_cons_of_mem _ List.mem_cons_self))
  have declaredOrder := (order.map Prod.fst).trans ((pins_heads_sublist declared observed).trans List.filter_sublist)
  exact ⟨later.1, declaredOrder, ⟨numbered, pin.2, member, sameId⟩,
    nextNumbered, later.2, otherMember, otherSame, taken⟩

-- The creations whose names are taken when their turn comes.
def blocked (declared observed : List Role) : List Role :=
  (others declared observed).filter fun role =>
    !keeps declared observed role && decide (role.name ∈ takenNames declared observed)

-- What is to be created finds its name taken only if a rename that should have left it was denied.
theorem denied_of_blocked (declares : Declared declared) (observes : Observed observed)
    (member : role ∈ blocked declared observed) :
    role ∈ declared ∧ ∃ pin ∈ denied (staying declared observed) (pins declared observed), pin.2.name = role.name := by
  simp only [blocked, List.mem_filter, Bool.and_eq_true, Bool.not_eq_true', decide_eq_true_eq,
    mem_others observes] at member
  obtain ⟨⟨isDeclared, unknown⟩, goes, taken⟩ := member
  refine ⟨isDeclared, ?_⟩
  obtain ⟨settledOld, settles, sameName⟩ := List.mem_map.mp taken
  obtain ⟨old, stays, rfl⟩ := List.mem_map.mp settles
  obtain ⟨oldMember, heir, inherits⟩ := (mem_staying observes).mp stays
  cases numbered : heir.hasId with
  | true =>
    obtain ⟨heirDeclared, same⟩ := (inherits_numbered numbered).mp inherits
    by_cases moves : heir ∈ moving declared observed
    · rw [settled_of_chosen declares (moving_subset observes) numbered moves same] at sameName
      rw [declares.same_name heirDeclared isDeclared sameName] at numbered same
      exact absurd same (unknown numbered old oldMember)
    · rw [settled_of_not_chosen declares (moving_subset observes) heirDeclared numbered moves same] at sameName
      have pin : (heir, old) ∈ pins declared observed :=
        (mem_pins observes).mpr ⟨heirDeclared, numbered, oldMember, same⟩
      exact ⟨_, (granted_or_denied pin).resolve_left fun granted => moves (List.mem_map_of_mem granted), sameName⟩
  | false =>
    obtain ⟨heirDeclared, heirName, unpinned⟩ := (inherits_unnumbered numbered).mp inherits
    rw [settled_of_not_pinned (moving_subset observes) unpinned] at sameName
    rw [declares.same_name heirDeclared isDeclared (heirName.symm.trans sameName)] at numbered inherits
    have kept := (mem_keepers observes).mpr ⟨numbered, old, oldMember, inherits⟩
    rw [(List.mem_filter.mp kept).2] at goes
    cases goes

end Change
end Role

namespace Keeper
open Role Role.Change

variable {declared : List Role} {store : Store} {reserved : List String}

-- The renames that are denied, and behind them the creations that are blocked.
def refusals (pass : Pass) (declared observed : List Role) : Plan :=
  (denied (staying declared observed) (pins declared observed)).map (fun pin => pass.updateRole pin.1 pin.2) ++
    (blocked declared observed).map pass.createRole

theorem refused_rolePlan (pass : Pass) (declares : Declared declared) (observes : Observed store.roles)
    (issuer : Issuer reserved) :
    refused (byName issuer) store (pass.rolePlan declared store.roles) = refusals pass declared store.roles := by
  have updates := refused_updatePins issuer pass { store with roles := staying declared store.roles }
    (staying_ids_nodup observes) (staying_names_nodup observes) (pins_kept observes) (pins_ids_nodup declares)
  have rest := refused_keepOrCreate issuer pass
    { store with roles := (staying declared store.roles).map (settled (moving declared store.roles)) }
    (others_names_nodup declares observes) fun role member stays => taken_of_keeps observes member stays
  have deletions := after_deletions pass declared observes issuer
  rw [pass.rolePlan_eq declares observes, refused_append, refused_append, List.map_append, after_append,
    after_of_applyAll deletions, refused_of_applyAll deletions, after_moves pass declares observes issuer, updates,
    List.nil_append]
  exact congrArg (_ ++ ·) rest

theorem mem_refusals (pass : Pass) (declares : Declared declared) (observes : Observed store.roles) {action : Action}
    (member : action ∈ refusals pass declared store.roles) :
    (∃ role old, Renames declared store.roles role old ∧ action = pass.updateRole role old) ∨
      ∃ role ∈ declared, action = pass.createRole role ∧
        ∃ other old, Renames declared store.roles other old ∧ old.name = role.name ∧
          pass.updateRole other old ∈ refusals pass declared store.roles := by
  rcases List.mem_append.mp member with update | creation
  · obtain ⟨pin, denies, rfl⟩ := List.mem_map.mp update
    exact .inl ⟨pin.1, pin.2, renames_of_denied observes denies, rfl⟩
  · obtain ⟨role, isBlocked, rfl⟩ := List.mem_map.mp creation
    obtain ⟨isDeclared, pin, denies, left⟩ := denied_of_blocked declares observes isBlocked
    exact .inr ⟨role, isDeclared, rfl, pin.1, pin.2, renames_of_denied observes denies, left,
      List.mem_append_left _ (List.mem_map.mpr ⟨pin, denies, rfl⟩)⟩

theorem first_refusal (pass : Pass) (declares : Declared declared) (observes : Observed store.roles) {action : Action}
    (first : (refusals pass declared store.roles).head? = some action) :
    ∃ role next old, Premature declared store.roles role next ∧ Renames declared store.roles role old ∧
      action = pass.updateRole role old := by
  rw [refusals] at first
  cases denials : denied (staying declared store.roles) (pins declared store.roles) with
  | nil =>
    -- With nobody denied, no creation finds its name taken.
    have unblocked : blocked declared store.roles = [] := by
      apply List.eq_nil_iff_forall_not_mem.mpr
      intro role isBlocked
      obtain ⟨_, pin, denies, _⟩ := denied_of_blocked declares observes isBlocked
      rw [denials] at denies
      cases denies
    rw [denials, unblocked] at first
    cases first
  | cons pin rest =>
    have head : (denied (staying declared store.roles) (pins declared store.roles)).head? = some pin := by
      rw [denials, List.head?_cons]
    rw [denials] at first
    obtain ⟨next, premature⟩ := premature_of_first declares observes head
    exact ⟨pin.1, next, pin.2, premature, renames_of_denied observes (List.mem_of_mem_head? head),
      (Option.some.inj first).symm⟩

theorem refusals_eq_nil_iff (pass : Pass) (declares : Declared declared) (observes : Observed store.roles) :
    refusals pass declared store.roles = [] ↔ ¬ ∃ role next, Premature declared store.roles role next := by
  constructor
  · intro nothing premature
    obtain ⟨role, next, premature⟩ := premature
    obtain ⟨old, denies⟩ := denied_of_premature declares observes premature
    rw [List.map_eq_nil_iff.mp (List.append_eq_nil_iff.mp nothing).1] at denies
    cases denies
  · intro inOrder
    by_contra something
    obtain ⟨action, rest, refused⟩ := List.exists_cons_of_ne_nil something
    obtain ⟨role, next, _, premature, _⟩ := first_refusal pass declares observes (by rw [refused]; rfl)
    exact inOrder ⟨role, next, premature⟩

-- All actions of a plan are attempted in their order, and none of them in vain exactly if no pinned
-- role comes before the holder of its name. The first failure always is such a role's rename. Besides
-- renames only creations can fail, and only where a rename that has failed should have left the name.
theorem rolePlan_conflicts (pass : Pass) (abort : Bool) (declares : Declared declared)
    (observes : Observed store.roles) (issuer : Issuer reserved) :
    ((byName issuer).execution pass abort declared store).calls =
        (pass.rolePlan declared store.roles).map (·.operation) ∧
      (((byName issuer).execution pass abort declared store).failed = [] ↔
        ¬ ∃ role next, Premature declared store.roles role next) ∧
      (∀ action, ((byName issuer).execution pass abort declared store).failed.head? = some action →
        ∃ role next old, Premature declared store.roles role next ∧ Renames declared store.roles role old ∧
          action = pass.updateRole role old) ∧
      ∀ action ∈ ((byName issuer).execution pass abort declared store).failed,
        (∃ role old, Renames declared store.roles role old ∧ action = pass.updateRole role old) ∨
          ∃ role ∈ declared, action = pass.createRole role ∧
            ∃ other old, Renames declared store.roles other old ∧ old.name = role.name ∧
              pass.updateRole other old ∈ ((byName issuer).execution pass abort declared store).failed := by
  rw [execution_failed, refused_rolePlan pass declares observes issuer]
  exact ⟨Execution.run_calls_of_mutating _ (pass.rolePlan_mutating _ _), refusals_eq_nil_iff pass declares observes,
    fun _ => first_refusal pass declares observes, fun _ => mem_refusals pass declares observes⟩

-- Two renames in a row and a role that takes up the first name: it depends on the order of the renames.
theorem rolePlan_conflicts_order_matters :
    let early := [Role.withId "1" "b", Role.withId "2" "c", Role.named "a"]
    let late := [Role.withId "2" "c", Role.withId "1" "b", Role.named "a"]
    let store : Store := { roles := [Role.withId "1" "a", Role.withId "2" "b"] }
    let execution := fun declared => (byName (Issuer.longer [])).execution (Pass.of {} default) false declared store
    Declared early ∧ Declared late ∧ Observed store.roles ∧ (execution early).failed ≠ [] ∧
      (execution late).failed = [] := by
  intro early late store execution
  have declaresEarly : Declared early := ⟨by decide, by decide⟩
  have declaresLate : Declared late := ⟨by decide, by decide⟩
  have observes : Observed store.roles := ⟨by decide, by decide, by decide⟩
  have conflictFree := fun {declared} (declares : Declared declared) =>
    (rolePlan_conflicts (Pass.of {} default) false declares observes (Issuer.longer [])).2.1
  refine ⟨declaresEarly, declaresLate, observes, ?_, ?_⟩
  · apply (conflictFree declaresEarly).not.mpr
    exact not_not.mpr ⟨Role.withId "1" "b", Role.withId "2" "c", by decide, by decide, by decide⟩
  · apply (conflictFree declaresLate).mpr
    intro premature
    obtain ⟨role, next, order, ⟨numbered, _⟩, nextNumbered, holds⟩ := premature
    have inOrder : ∀ role ∈ late, ∀ next ∈ late, role.hasId → next.hasId →
        (∃ old ∈ store.roles, old.id = next.id ∧ old.name = role.name) → ¬ [role, next].Sublist late := by decide
    exact inOrder role (order.subset List.mem_cons_self) next (order.subset (List.mem_cons_of_mem _ List.mem_cons_self))
      numbered nextNumbered holds order

end Keeper
end RealmPlan
