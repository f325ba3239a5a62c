import RealmPlan.Proofs.Uniqueness
import Mathlib.Data.Set.Finite.List
import Mathlib.Dynamics.PeriodicPts.Lemmas

namespace RealmPlan.Role

-- A role waits for the next one as long as the next one still has the name that it is to take.
def Awaits (observed : List Role) (role next : Role) : Prop :=
  ∃ old ∈ observed, old.id = next.id ∧ old.name = role.name

instance (observed : List Role) : DecidableRel (Awaits observed) := fun role next =>
  inferInstanceAs (Decidable (∃ old ∈ observed, old.id = next.id ∧ old.name = role.name))

-- Roles with an id that wait for one another and for nobody else.
def Jam (declared observed : List Role) (waiting : Role → Prop) : Prop :=
  ∀ role, waiting role →
    role ∈ declared ∧ role.hasId ∧ ∃ next, waiting next ∧ next ≠ role ∧ Awaits observed role next

-- Roles with an id in a ring, each of which waits for the next one.
structure Deadlock (declared observed : List Role) (ring : List Role) : Prop where
  several : 2 ≤ ring.length
  distinct : ring.Nodup
  pinned : ∀ role ∈ ring, role ∈ declared ∧ role.hasId
  chain : (ring : Cycle Role).Chain (Awaits observed)

theorem exists_successor {α : Type} {related : α → α → Prop} {ring : List α} (several : 2 ≤ ring.length)
    (distinct : ring.Nodup) (chain : (ring : Cycle α).Chain related) {a : α} (member : a ∈ ring) :
    ∃ b ∈ ring, b ≠ a ∧ related a b := by
  obtain ⟨front, back, rfl⟩ := List.append_of_mem member
  have turned : (front ++ a :: back : List α) ~r a :: (back ++ front) := List.isRotated_append
  rw [Cycle.coe_eq_coe.mpr turned, Cycle.chain_coe_cons] at chain
  have apart := turned.perm.nodup_iff.mp distinct
  cases onward : back ++ front with
  | nil =>
    have length := turned.perm.length_eq
    rw [onward] at length
    simp only [List.length_singleton] at length
    omega
  | cons b rest =>
    rw [onward] at chain apart
    refine ⟨b, turned.perm.mem_iff.mpr (by simp [onward]), ?_, (List.isChain_cons_cons.mp chain).1⟩
    intro same
    exact (List.nodup_cons.mp apart).1 (by simp [same])

-- Steps that never stay and never meet come back to where they began.
theorem exists_orbit {α : Type} [Finite α] {follow : α → α} (injective : Function.Injective follow)
    (moves : ∀ a, follow a ≠ a) (start : α) :
    ∃ ring : List α, 2 ≤ ring.length ∧ ring.Nodup ∧ (ring : Cycle α).Chain fun a b => follow a = b := by
  have returns := injective.mem_periodicPts start
  let orbit := (List.range (Function.minimalPeriod follow start)).map fun n => follow^[n] start
  have length : orbit.length = Function.minimalPeriod follow start := by
    simp only [orbit, List.length_map, List.length_range]
  refine ⟨orbit, ?_, Cycle.nodup_coe_iff.mp Function.nodup_periodicOrbit, ?_⟩
  · have positive := Function.minimalPeriod_pos_of_mem_periodicPts returns
    have unfixed : Function.minimalPeriod follow start ≠ 1 :=
      fun single => moves start (Function.minimalPeriod_eq_one_iff_isFixedPt.mp single)
    omega
  · apply (Function.periodicOrbit_chain' _ returns).mpr
    intro n
    exact (Function.iterate_succ_apply' follow n start).symm

variable {declared observed : List Role}

theorem Deadlock.jam {ring : List Role} (closed : Deadlock declared observed ring) : Jam declared observed (· ∈ ring) := by
  intro role member
  obtain ⟨isDeclared, numbered⟩ := closed.pinned role member
  exact ⟨isDeclared, numbered, exists_successor closed.several closed.distinct closed.chain member⟩

-- Everybody in a jam waits for somebody in it, and no two for the same.
theorem Jam.deadlock {waiting : Role → Prop} (jam : Jam declared observed waiting)
    (declares : Declared declared) (observes : Observed observed) {role : Role} (waits : waiting role) :
    ∃ ring, Deadlock declared observed ring := by
  have finite : Finite { role // waiting role } :=
    (declared.finite_toSet.subset fun role waits => (jam role waits).1).to_subtype
  choose next nextWaits differ awaits using fun role : { role // waiting role } => (jam role.1 role.2).2.2
  let follow : { role // waiting role } → { role // waiting role } := fun role => ⟨next role, nextWaits role⟩
  -- Who is waited for has one name, and only one declared role is to take it.
  have injective : Function.Injective follow := by
    intro a b same
    obtain ⟨oldA, memberA, idA, nameA⟩ := awaits a
    obtain ⟨oldB, memberB, idB, nameB⟩ := awaits b
    have sameNext : next a = next b := congrArg Subtype.val same
    have one := observes.same_id memberA memberB (by rw [idA, idB, sameNext])
    refine Subtype.ext (declares.same_name (jam a.1 a.2).1 (jam b.1 b.2).1 ?_)
    rw [← nameA, one, nameB]
  have moves : ∀ role, follow role ≠ role := fun role same => differ role (congrArg Subtype.val same)
  obtain ⟨ring, several, distinct, chain⟩ := exists_orbit injective moves ⟨role, waits⟩
  refine ⟨ring.map Subtype.val, by rwa [List.length_map], distinct.map Subtype.val_injective, ?_, ?_⟩
  · intro other member
    obtain ⟨inJam, _, rfl⟩ := List.mem_map.mp member
    exact ⟨(jam inJam.1 inJam.2).1, (jam inJam.1 inJam.2).2.1⟩
  · rw [← Cycle.map_coe, Cycle.chain_map]
    apply chain.imp
    intro a b same
    rw [← same]
    exact awaits a

end RealmPlan.Role
