import RealmPlan.Plan

namespace RealmPlan

theorem Operation.Kind.rank_injective {a b : Operation.Kind} (same : a.rank = b.rank) : a = b := by
  cases a <;> cases b <;> first | rfl | cases same

namespace Plan.Key

theorem le_iff {a b : Plan.Key} : le a b = true ↔ a.1.rank < b.1.rank ∨ a.1 = b.1 ∧ a.2 ≤ b.2 := by
  simp [le]

theorem le_trans {a b c : Plan.Key} (ab : le a b = true) (bc : le b c = true) : le a c = true := by
  rw [le_iff] at ab bc ⊢
  rcases ab with lower | ⟨same, ordered⟩
  · rcases bc with higher | ⟨same, _⟩
    · exact .inl (Nat.lt_trans lower higher)
    · exact .inl (same ▸ lower)
  · rcases bc with higher | ⟨sameAgain, orderedAgain⟩
    · exact .inl (same ▸ higher)
    · exact .inr ⟨same.trans sameAgain, String.le_trans ordered orderedAgain⟩

theorem le_total (a b : Plan.Key) : (le a b || le b a) = true := by
  rw [Bool.or_eq_true, le_iff, le_iff]
  rcases Nat.lt_trichotomy a.1.rank b.1.rank with lower | same | higher
  · exact .inl (.inl lower)
  · have kind := Operation.Kind.rank_injective same
    exact (String.le_total a.2 b.2).imp (fun ordered => .inr ⟨kind, ordered⟩) fun ordered => .inr ⟨kind.symm, ordered⟩
  · exact .inr (.inl higher)

theorem le_antisymm {a b : Plan.Key} (ab : le a b = true) (ba : le b a = true) : a = b := by
  rw [le_iff] at ab ba
  rcases ab with lower | ⟨same, ordered⟩
  · rcases ba with higher | ⟨same, _⟩
    · exact absurd (Nat.lt_trans lower higher) (Nat.lt_irrefl _)
    · exact absurd (same ▸ lower) (Nat.lt_irrefl _)
  · rcases ba with higher | ⟨_, reversed⟩
    · exact absurd (same ▸ higher) (Nat.lt_irrefl _)
    · exact Prod.ext same (String.le_antisymm ordered reversed)

end Plan.Key

-- What an action does to what.
def Action.key (action : Action) : Plan.Key := (action.kind, action.target)

namespace Plan

theorem keys_perm (plan : Plan) : plan.keys.Perm (plan.map Action.key) := List.mergeSort_perm _ _

theorem keys_sorted (plan : Plan) : plan.keys.Pairwise fun a b => Key.le a b = true := by
  apply List.pairwise_mergeSort
  · intro a b c ab bc
    exact Key.le_trans ab bc
  · exact Key.le_total

-- A plan's keys forget the order of its actions and nothing else.
theorem keys_eq_iff {a b : Plan} : a.keys = b.keys ↔ (a.map Action.key).Perm (b.map Action.key) := by
  constructor
  · intro same
    exact (keys_perm a).symm.trans (same ▸ keys_perm b)
  · intro reordered
    have sorted := (keys_perm a).trans (reordered.trans (keys_perm b).symm)
    exact sorted.eq_of_pairwise (fun _ _ _ _ => Key.le_antisymm) (keys_sorted a) (keys_sorted b)

end Plan
end RealmPlan
