import RealmPlan.Pass
import RealmPlan.Proofs.Keys
import Mathlib.Data.String.Basic

namespace RealmPlan

namespace Text

-- A text as it is encoded in UTF-8.
def bytes (s : String) : List UInt8 := s.toUTF8.data.toList

theorem bytes_eq (s : String) : bytes s = s.toList.flatMap String.utf8EncodeChar := by
  have encoded : s.toUTF8 = s.toList.utf8Encode := String.utf8Encode_toList.symm
  rw [bytes, encoded, List.utf8Encode, List.toList_data_toByteArray]

theorem ofNat_cons_lt_iff {m n : Nat} (mSmall : m < 256) (nSmall : n < 256) {ms ns : List UInt8} :
    UInt8.ofNat m :: ms < UInt8.ofNat n :: ns ↔ m < n ∨ m = n ∧ ms < ns := by
  rw [List.cons_lt_cons_iff, UInt8.lt_iff_toNat_lt, ← UInt8.toNat_inj, UInt8.toNat_ofNat', UInt8.toNat_ofNat',
    Nat.mod_eq_of_lt mSmall, Nat.mod_eq_of_lt nSmall]

-- The encodings of two characters differ before either of them ends, so what follows them does not matter.
theorem utf8EncodeChar_lt {c d : Char} (before : c < d) (cs ds : List UInt8) :
    String.utf8EncodeChar c ++ cs < String.utf8EncodeChar d ++ ds := by
  have below : c.val.toNat < d.val.toNat := before
  have bound : d.val.toNat < 0x110000 := by
    have valid := d.valid
    simp only [UInt32.isValidChar, Nat.isValidChar] at valid
    omega
  have places (v : Nat) : v / 4096 = v / 64 / 64 ∧ v / 262144 = v / 64 / 64 / 64 := by
    simp only [Nat.div_div_eq_div_mul, Nat.reduceMul, and_self]
  fun_cases String.utf8EncodeChar c <;> fun_cases String.utf8EncodeChar d
  all_goals
    simp (disch := omega) only [List.cons_append, List.nil_append, ofNat_cons_lt_iff, places]
    omega

theorem flatMap_lt {cs ds : List Char} (before : cs < ds) :
    cs.flatMap String.utf8EncodeChar < ds.flatMap String.utf8EncodeChar := by
  induction before with
  | @nil d ds =>
    obtain ⟨first, rest, encoded⟩ := List.exists_cons_of_ne_nil (String.utf8EncodeChar_ne_nil (c := d))
    rw [List.flatMap_nil, List.flatMap_cons, encoded, List.cons_append]
    exact List.nil_lt_cons _ _
  | rel lower =>
    rw [List.flatMap_cons, List.flatMap_cons]
    exact utf8EncodeChar_lt lower _ _
  | cons _ ih =>
    rw [List.flatMap_cons, List.flatMap_cons]
    exact List.append_left_lt ih

theorem bytes_lt_iff {a b : String} : bytes a < bytes b ↔ a < b := by
  have ascends {s t : String} (before : s < t) : bytes s < bytes t := by
    rw [bytes_eq, bytes_eq]
    exact flatMap_lt before
  refine ⟨fun before => Decidable.byContradiction fun notBefore => ?_, ascends⟩
  by_cases after : b < a
  · exact List.lt_asymm before (ascends after)
  · have same := String.le_antisymm (String.not_lt.mp after) (String.not_lt.mp notBefore)
    exact List.lt_irrefl _ (same ▸ before)

theorem bytes_le_iff {a b : String} : bytes a ≤ bytes b ↔ a ≤ b := by
  rw [← List.not_lt, ← String.not_lt, bytes_lt_iff]

end Text

namespace Plan

-- By kind, and by the bytes of the target within a kind.
def Key.InByteOrder (a b : Key) : Prop := a.1.rank < b.1.rank ∨ a.1 = b.1 ∧ Text.bytes a.2 ≤ Text.bytes b.2

theorem Key.inByteOrder_iff {a b : Key} : a.InByteOrder b ↔ le a b = true := by
  rw [InByteOrder, le_iff, Text.bytes_le_iff]

-- How many actions of a plan do this to that.
def doing (plan : Plan) (kind : Operation.Kind) (target : String) : Nat :=
  plan.countP fun action => action.kind = kind ∧ action.target = target

theorem count_key (plan : Plan) (kind : Operation.Kind) (target : String) :
    (plan.map Action.key).count (kind, target) = plan.doing kind target := by
  rw [List.count_eq_countP, List.countP_map, doing]
  apply List.countP_congr
  intro action _
  simp [Action.key]

theorem keys_eq_iff_doing {a b : Plan} :
    a.keys = b.keys ↔ ∀ kind target, a.doing kind target = b.doing kind target := by
  rw [keys_eq_iff, List.perm_iff_count, Prod.forall]
  simp only [count_key]

theorem keys_length (plan : Plan) : plan.keys.length = plan.length := by
  rw [(keys_perm plan).length_eq, List.length_map]

theorem withEffect_keys (plan : Plan) (effect : Effect) :
    withEffect plan effect = plan.keys.countP fun key => key.1.effect == effect := by
  rw [(keys_perm plan).countP_eq, List.countP_map]
  rfl

-- The sorted keys tell two plans apart exactly if one of them does something more often than the other. Of a summary
-- they tell all but the renames.
theorem keys_equal_up_to_order :
    (∀ plan : Plan, plan.keys.Perm (plan.map fun action => (action.kind, action.target)) ∧
      plan.keys.Pairwise Key.InByteOrder) ∧
    ∀ a b : Plan, (a.keys = b.keys ↔ ∀ kind target, a.doing kind target = b.doing kind target) ∧
      (a.keys = b.keys → a.length = b.length ∧ a.summary.pings = b.summary.pings ∧
        a.summary.creates = b.summary.creates ∧ a.summary.updates = b.summary.updates ∧
        a.summary.deletes = b.summary.deletes) := by
  constructor
  · intro plan
    exact ⟨keys_perm plan, (keys_sorted plan).imp Key.inByteOrder_iff.mpr⟩
  · intro a b
    refine ⟨keys_eq_iff_doing, fun same => ?_⟩
    have length : a.length = b.length := by rw [← keys_length, same, keys_length]
    have effects (effect : Effect) : withEffect a effect = withEffect b effect := by
      rw [withEffect_keys, same, withEffect_keys]
    exact ⟨length, effects .check, effects .create, effects .update, effects .delete⟩

-- One plan renames the role that the other leaves under its name, and checks first what the other checks last.
theorem keys_equal_up_to_order_rename :
    let pass := Pass.of {} default
    let renames : Plan := [Pass.ping, pass.updateRole (Role.withId "1" "b") (Role.withId "1" "a")]
    let refreshes : Plan := [pass.updateRole (Role.named "b") (Role.named "b"), Pass.ping]
    renames.keys = refreshes.keys ∧ renames.summary.updates = refreshes.summary.updates ∧
      renames.summary.renames ≠ refreshes.summary.renames := by
  intro pass renames refreshes
  have same : renames.keys = refreshes.keys := keys_eq_iff.mpr (.swap _ _ [])
  obtain ⟨_, _, _, updates, _⟩ := (keys_equal_up_to_order.2 renames refreshes).2 same
  exact ⟨same, updates, by decide⟩

end Plan
end RealmPlan
