import RealmPlan.Proofs.Advance

namespace RealmPlan
open Role Role.Change

-- The declared roles are kept and no others, and those with an id under this id.
def Holds (declared stored : List Role) : Prop :=
  (stored.map bare).Perm (declared.map bare) ∧ ∀ role ∈ declared, role.hasId → role ∈ stored

-- What is kept while passes go on: every declared id is met again, and a pinned role is what it is
-- to be or what it was at the start.
structure Course (declared observed stored : List Role) : Prop where
  observes : Observed stored
  known : ∀ role ∈ declared, role.hasId → role.id ∈ stored.map (·.id)
  origin : ∀ kept ∈ stored, Pinned declared kept → kept ∈ declared ∨ kept ∈ observed

-- The roles with an id that are not what they are to be.
def pending (declared stored : List Role) : List Role :=
  declared.filter fun role => role.hasId && decide (role ∉ stored)

variable {declared observed stored next : List Role} {role old : Role}

theorem mem_pending : role ∈ pending declared stored ↔ role ∈ declared ∧ role.hasId ∧ role ∉ stored := by
  simp [pending]

namespace Course

theorem exists_pin (course : Course declared observed stored) (isDeclared : role ∈ declared)
    (numbered : role.hasId) : ∃ old, (role, old) ∈ pins declared stored := by
  obtain ⟨old, member, same⟩ := List.mem_map.mp (course.known role isDeclared numbered)
  exact ⟨old, (mem_pins course.observes).mpr ⟨isDeclared, numbered, member, same⟩⟩

theorem lasts (course : Course declared observed stored) (advance : Keeper.Advance declared stored next)
    (isDeclared : role ∈ declared) (numbered : role.hasId) (member : role ∈ stored) : role ∈ next := by
  have pin : (role, role) ∈ pins declared stored :=
    (mem_pins course.observes).mpr ⟨isDeclared, numbered, member, rfl⟩
  by_cases moves : role ∈ moving declared stored
  · exact advance.moved role role pin moves
  · exact advance.refused role role pin moves

theorem step (course : Course declared observed stored) (advance : Keeper.Advance declared stored next) :
    Course declared observed next where
  observes := advance.observes
  known role isDeclared numbered := by
    obtain ⟨old, pin⟩ := course.exists_pin isDeclared numbered
    obtain ⟨_, _, _, same⟩ := (mem_pins course.observes).mp pin
    by_cases moves : role ∈ moving declared stored
    · exact List.mem_map_of_mem (advance.moved role old pin moves)
    · exact List.mem_map.mpr ⟨old, advance.refused role old pin moves, same⟩
  origin kept member pinned := by
    obtain ⟨role, isDeclared, sameId⟩ := pinned
    have numbered := hasId_of_same_id sameId (advance.observes.identified kept member)
    obtain ⟨old, pin⟩ := course.exists_pin isDeclared numbered
    obtain ⟨_, _, oldMember, same⟩ := (mem_pins course.observes).mp pin
    by_cases moves : role ∈ moving declared stored
    · have moved := advance.moved role old pin moves
      rw [advance.observes.same_id member moved sameId.symm]
      exact .inl isDeclared
    · have refused := advance.refused role old pin moves
      rw [advance.observes.same_id member refused (sameId.symm.trans same.symm)]
      exact course.origin old oldMember ⟨role, isDeclared, same.symm⟩

theorem pending_sublist (course : Course declared observed stored) (advance : Keeper.Advance declared stored next) :
    (pending declared next).Sublist (pending declared stored) := by
  have narrows : pending declared next = (pending declared stored).filter (· ∉ next) := by
    simp only [pending, List.filter_filter]
    refine List.filter_congr fun role isDeclared => Bool.eq_iff_iff.mpr ?_
    simp only [Bool.and_eq_true, decide_eq_true_eq]
    constructor
    · intro later
      obtain ⟨numbered, apart⟩ := later
      exact ⟨apart, numbered, fun member => apart (course.lasts advance isDeclared numbered member)⟩
    · intro now
      obtain ⟨apart, numbered, _⟩ := now
      exact ⟨numbered, apart⟩
  rw [narrows]
  exact List.filter_sublist

-- Once the roles with an id are in place, nobody is in the way of the others.
theorem holds_of_settled (course : Course declared observed stored) (advance : Keeper.Advance declared stored next)
    (declares : Declared declared) (settled : pending declared stored = []) : Holds declared next := by
  have inPlace : ∀ role ∈ declared, role.hasId → role ∈ next := by
    intro role isDeclared numbered
    by_contra apart
    have waits := (course.pending_sublist advance).subset (mem_pending.mpr ⟨isDeclared, numbered, apart⟩)
    rw [settled] at waits
    cases waits
  have pinned : ∀ kept ∈ next, Pinned declared kept → kept ∈ declared ∧ kept.hasId := by
    intro kept member isPinned
    obtain ⟨role, isDeclared, same⟩ := isPinned
    have identified := advance.observes.identified kept member
    have roleMember := inPlace role isDeclared (hasId_of_same_id same identified)
    rw [advance.observes.same_id member roleMember same.symm] at identified ⊢
    exact ⟨isDeclared, identified⟩
  have unnumbered : ∀ role ∈ declared, role.hasId = false →
      ∃ kept ∈ next, kept.name = role.name ∧ kept.bare = role.bare := by
    intro role isDeclared noId
    obtain ⟨kept, member, same, claim⟩ := advance.made role isDeclared noId
    refine ⟨kept, member, same, claim.resolve_left fun isPinned => ?_⟩
    obtain ⟨keptDeclared, identified⟩ := pinned kept member isPinned
    rw [declares.same_name keptDeclared isDeclared same, noId] at identified
    cases identified
  refine ⟨bare_perm advance.observes.names declares.names (fun kept member => ?_) fun role isDeclared => ?_, inPlace⟩
  · rcases advance.only kept member with isPinned | ⟨role, isDeclared, noId, same⟩
    · exact ⟨kept, (pinned kept member isPinned).1, rfl⟩
    · obtain ⟨other, otherMember, otherName, bare⟩ := unnumbered role isDeclared noId
      rw [advance.observes.same_name otherMember member (otherName.trans same.symm)] at bare
      exact ⟨role, isDeclared, bare⟩
  · cases numbered : role.hasId with
    | true => exact ⟨role, inPlace role isDeclared numbered, rfl⟩
    | false =>
      obtain ⟨kept, member, _, bare⟩ := unnumbered role isDeclared numbered
      exact ⟨kept, member, bare⟩

-- Roles none of which gets its name wait for one another.
theorem jam_of_standstill (course : Course declared observed stored) (advance : Keeper.Advance declared stored next)
    (declares : Declared declared) (standstill : ∀ role ∈ pending declared stored, role ∉ next) :
    Jam declared observed (· ∈ pending declared stored) := by
  intro role waits
  obtain ⟨isDeclared, numbered, apart⟩ := mem_pending.mp waits
  obtain ⟨old, pin⟩ := course.exists_pin isDeclared numbered
  obtain ⟨_, _, oldMember, oldId⟩ := (mem_pins course.observes).mp pin
  have stays : role ∉ moving declared stored :=
    fun moves => standstill role waits (advance.moved role old pin moves)
  -- Another pinned role has the name, and whoever is to take its place has not done so yet.
  have taken := mt (moving_of_free declares course.observes pin) stays
  push Not at taken
  obtain ⟨other, member, isPinned, sameName, differ⟩ := taken
  obtain ⟨blocker, blockerDeclared, sameId⟩ := isPinned
  have blockerNumbered := hasId_of_same_id sameId (course.observes.identified other member)
  have apartFrom : blocker ≠ role := by
    intro same
    subst same
    exact differ (course.observes.same_id member oldMember (sameId.symm.trans oldId.symm))
  have notYet : other ≠ blocker := by
    intro same
    subst same
    exact apartFrom (declares.same_name blockerDeclared isDeclared sameName)
  refine ⟨isDeclared, numbered, blocker, mem_pending.mpr ⟨blockerDeclared, blockerNumbered, fun inPlace => ?_⟩,
    apartFrom, other, ?_, sameId.symm, sameName⟩
  · exact notYet (course.observes.same_id member inPlace sameId.symm)
  · rcases course.origin other member ⟨blocker, blockerDeclared, sameId⟩ with otherDeclared | reported
    · exact absurd (declares.same_id otherDeclared blockerDeclared blockerNumbered sameId.symm) notYet
    · exact reported

-- Who waits in a jam is refused, and so the others in it go on to wait.
theorem jam_stays (course : Course declared observed stored) (advance : Keeper.Advance declared stored next)
    (declares : Declared declared) (observes : Observed observed) {waiting : Role → Prop}
    (jam : Jam declared observed waiting)
    (unmoved : ∀ role old, waiting role → (role, old) ∈ pins declared observed → old ∈ stored) :
    ∀ role old, waiting role → (role, old) ∈ pins declared observed → old ∈ next := by
  have jamNow : Jam declared stored waiting := by
    intro role waits
    obtain ⟨isDeclared, numbered, other, otherWaits, differ, blocker, member, sameId, sameName⟩ := jam role waits
    obtain ⟨otherDeclared, otherNumbered, _⟩ := jam other otherWaits
    have pin := (mem_pins observes).mpr ⟨otherDeclared, otherNumbered, member, sameId⟩
    exact ⟨isDeclared, numbered, other, otherWaits, differ, blocker,
      unmoved other blocker otherWaits pin, sameId, sameName⟩
  intro role old waits pin
  obtain ⟨isDeclared, numbered, _, same⟩ := (mem_pins observes).mp pin
  have pinNow : (role, old) ∈ pins declared stored :=
    (mem_pins course.observes).mpr ⟨isDeclared, numbered, unmoved role old waits pin, same⟩
  exact advance.refused role old pinNow (not_moving_of_jam declares course.observes jamNow waits)

end Course

variable {store : Store} {issuer : Issuer (declared.map (·.id))} {pass : Pass} {abort : Bool}

theorem Course.advance (course : Course declared observed store.roles) (declares : Declared declared) :
    Keeper.Advance declared store.roles ((Keeper.byName issuer).pass pass abort declared store).roles :=
  Keeper.pass_advances pass abort declares course.observes course.known issuer

-- As long as there is no jam every pass puts at least one more role with an id in its place.
theorem settles_of_no_jam (declares : Declared declared)
    (noJam : ∀ waiting, Jam declared observed waiting → ∀ role, ¬ waiting role)
    (course : Course declared observed store.roles) :
    ∃ passes, Holds declared (((Keeper.byName issuer).pass pass abort declared)^[passes] store).roles := by
  induction size : (pending declared store.roles).length using Nat.strong_induction_on generalizing store with
  | _ size ih =>
    subst size
    have advance : Keeper.Advance declared store.roles ((Keeper.byName issuer).pass pass abort declared store).roles :=
      course.advance declares
    -- With nobody left one more pass will do. Else somebody moves, or all that are left are in a jam.
    cases waiting : pending declared store.roles with
    | nil => exact ⟨1, course.holds_of_settled advance declares waiting⟩
    | cons role rest =>
      have narrows := course.pending_sublist advance
      have fewer : (pending declared ((Keeper.byName issuer).pass pass abort declared store).roles).length <
          (pending declared store.roles).length := by
        apply lt_of_le_of_ne narrows.length_le
        intro same
        have standstill : ∀ role ∈ pending declared store.roles,
            role ∉ ((Keeper.byName issuer).pass pass abort declared store).roles := by
          intro role waits
          rw [← narrows.eq_of_length same] at waits
          exact (mem_pending.mp waits).2.2
        apply noJam _ (course.jam_of_standstill advance declares standstill) role
        rw [waiting]
        exact List.mem_cons_self
      obtain ⟨passes, holds⟩ := ih _ fewer (course.step advance) rfl
      exact ⟨passes + 1, holds⟩

theorem jam_lasts (declares : Declared declared) (observes : Observed observed) {waiting : Role → Prop}
    (jam : Jam declared observed waiting) (start : Course declared observed store.roles)
    (unmoved : ∀ role old, waiting role → (role, old) ∈ pins declared observed → old ∈ store.roles) (passes : Nat) :
    Course declared observed (((Keeper.byName issuer).pass pass abort declared)^[passes] store).roles ∧
      ∀ role old, waiting role → (role, old) ∈ pins declared observed →
        old ∈ (((Keeper.byName issuer).pass pass abort declared)^[passes] store).roles := by
  induction passes with
  | zero => exact ⟨start, unmoved⟩
  | succ passes ih =>
    obtain ⟨course, still⟩ := ih
    rw [Function.iterate_succ_apply']
    exact ⟨course.step (course.advance declares), course.jam_stays (course.advance declares) declares observes jam still⟩

-- A role cannot be in place while another that has its name has not been renamed.
theorem not_holds_of_jam (declares : Declared declared) (observes : Observed observed) {waiting : Role → Prop}
    (jam : Jam declared observed waiting) (waits : waiting role) (distinct : Observed stored)
    (unmoved : ∀ role old, waiting role → (role, old) ∈ pins declared observed → old ∈ stored) :
    ¬ Holds declared stored := by
  intro holds
  obtain ⟨_, inPlace⟩ := holds
  obtain ⟨isDeclared, _, other, otherWaits, differ, blocker, member, sameId, sameName⟩ := jam role waits
  obtain ⟨otherDeclared, otherNumbered, _⟩ := jam other otherWaits
  have pin := (mem_pins observes).mpr ⟨otherDeclared, otherNumbered, member, sameId⟩
  have blockerMember := unmoved other blocker otherWaits pin
  have one := distinct.same_id blockerMember (inPlace other otherDeclared otherNumbered) sameId
  rw [one] at sameName
  exact differ (declares.same_name otherDeclared isDeclared sameName)

-- Planning again and again gets all declared roles in force, unless some with an id wait for one
-- another in a ring: then no number of passes does.
theorem replanning_settles_iff (pass : Pass) (abort : Bool) (declares : Declared declared)
    (observes : Observed store.roles) (known : ∀ role ∈ declared, role.hasId → role.id ∈ store.ids)
    (issuer : Issuer (declared.map (·.id))) :
    (∃ passes, Holds declared (((Keeper.byName issuer).pass pass abort declared)^[passes] store).roles) ↔
      ¬ ∃ ring, Deadlock declared store.roles ring := by
  have start : Course declared store.roles store.roles := ⟨observes, known, fun _ member _ => .inr member⟩
  constructor
  · intro settles deadlocked
    obtain ⟨passes, holds⟩ := settles
    obtain ⟨ring, closed⟩ := deadlocked
    have unmoved : ∀ role old, role ∈ ring → (role, old) ∈ pins declared store.roles → old ∈ store.roles :=
      fun _ _ _ pin => ((mem_pins observes).mp pin).2.2.1
    obtain ⟨course, still⟩ := jam_lasts declares observes closed.jam start unmoved passes
    obtain ⟨role, member⟩ := List.exists_mem_of_length_pos (Nat.lt_of_lt_of_le Nat.zero_lt_two closed.several)
    exact not_holds_of_jam declares observes closed.jam member course.observes still holds
  · intro noDeadlock
    refine settles_of_no_jam declares (fun waiting jam role waits => noDeadlock ?_) start
    exact jam.deadlock declares observes waits

-- Two renames in a row get through, and the first name is taken up again. A swap does not.
theorem replanning_settles_chain_not_swap :
    let chain := [Role.withId "1" "b", Role.withId "2" "c", Role.named "a"]
    let swap := [Role.withId "1" "b", Role.withId "2" "a"]
    let store : Store := { roles := [Role.withId "1" "a", Role.withId "2" "b"] }
    let attempt := fun declared =>
      (Keeper.byName (Issuer.longer (declared.map Role.id))).pass (Pass.of {} default) false declared
    Declared chain ∧ Declared swap ∧ Observed store.roles ∧
      (∃ passes, Holds chain ((attempt chain)^[passes] store).roles) ∧
      ¬ ∃ passes, Holds swap ((attempt swap)^[passes] store).roles := by
  intro chain swap store attempt
  have declaresChain : Declared chain := ⟨by decide, by decide⟩
  have declaresSwap : Declared swap := ⟨by decide, by decide⟩
  have observes : Observed store.roles := ⟨by decide, by decide, by decide⟩
  have settlesIff := fun {declared} (declares : Declared declared) =>
    replanning_settles_iff (Pass.of {} default) false declares observes
  refine ⟨declaresChain, declaresSwap, observes, ?_, ?_⟩
  · apply (settlesIff declaresChain (by decide) (Issuer.longer _)).mpr
    intro deadlocked
    obtain ⟨ring, closed⟩ := deadlocked
    have last : Role.withId "2" "c" ∉ ring := by
      intro member
      obtain ⟨_, _, _, _, _, old, oldMember, _, taken⟩ := closed.jam _ member
      have free : ∀ old ∈ store.roles, old.name ≠ "c" := by decide
      exact free old oldMember taken
    have first : Role.withId "1" "b" ∉ ring := by
      intro member
      obtain ⟨_, _, next, nextMember, _, old, oldMember, sameId, taken⟩ := closed.jam _ member
      obtain ⟨isDeclared, _⟩ := closed.pinned next nextMember
      have only : ∀ old ∈ store.roles, old.name = "b" → ∀ next ∈ chain, old.id = next.id →
          next = Role.withId "2" "c" := by decide
      rw [only old oldMember taken next isDeclared sameId] at nextMember
      exact last nextMember
    have two : ∀ role ∈ chain, role.hasId → role = Role.withId "1" "b" ∨ role = Role.withId "2" "c" := by decide
    obtain ⟨role, member⟩ := List.exists_mem_of_length_pos (Nat.lt_of_lt_of_le Nat.zero_lt_two closed.several)
    obtain ⟨isDeclared, numbered⟩ := closed.pinned role member
    rcases two role isDeclared numbered with rfl | rfl
    · exact first member
    · exact last member
  · apply (settlesIff declaresSwap (by decide) (Issuer.longer _)).not.mpr
    exact not_not.mpr ⟨swap, by decide, by decide, by decide, (Cycle.chain_coe_cons _ _ _).mpr (by decide)⟩

end RealmPlan
