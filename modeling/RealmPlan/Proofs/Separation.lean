import RealmPlan.Proofs.Scan

namespace RealmPlan
namespace Role

-- No name and no id is found on both sides. An empty id is none, so it may be on both.
structure Unrelated (left right : List Role) : Prop where
  names : ∀ a ∈ left, ∀ b ∈ right, a.name ≠ b.name
  ids : ∀ a ∈ left, ∀ b ∈ right, a.hasId → a.id ≠ b.id

instance (left right : List Role) : Decidable (Unrelated left right) :=
  decidable_of_iff
    ((∀ a ∈ left, ∀ b ∈ right, a.name ≠ b.name) ∧ ∀ a ∈ left, ∀ b ∈ right, a.hasId → a.id ≠ b.id)
    ⟨fun apart => ⟨apart.1, apart.2⟩, fun unrelated => ⟨unrelated.names, unrelated.ids⟩⟩

variable {left right own before after : List Role} {role other : Role}

theorem Unrelated.symm (unrelated : Unrelated left right) : Unrelated right left where
  names b right a left := (unrelated.names a left b right).symm
  ids b right a left numbered same :=
    unrelated.ids a left b right (hasId_of_same_id same.symm numbered) same.symm

theorem Unrelated.not_same (unrelated : Unrelated left right) (member : role ∈ left) (stranger : other ∈ right) :
    other.denotesSame role = false := by
  rw [denotesSame]
  split
  · rename_i numbered
    have roleNumbered : role.hasId := (Bool.and_eq_true_iff.mp numbered).2
    exact beq_false_of_ne (unrelated.ids role member other stranger roleNumbered).symm
  · exact beq_false_of_ne (unrelated.names role member other stranger).symm

theorem mem_own (member : role ∈ before ++ own ++ after) (home : role ∉ before ++ after) : role ∈ own := by
  simp only [List.mem_append] at member home
  tauto

theorem matched_amid (strangers : ∀ other ∈ before ++ after, other.denotesSame role = false) :
    Matched (before ++ own ++ after) role ↔ Matched own role := by
  constructor
  · intro matched
    obtain ⟨other, member, same⟩ := matched
    have home : other ∉ before ++ after := by
      intro foreign
      rw [strangers other foreign] at same
      cases same
    exact ⟨other, mem_own member home, same⟩
  · intro matched
    obtain ⟨other, member, same⟩ := matched
    exact ⟨other, by simp [member], same⟩

theorem lastWithId_amid {id : String} (strangers : ∀ other ∈ before ++ after, other.id ≠ id) :
    lastWithId? (before ++ own ++ after) id = lastWithId? own id := by
  have none_of {roles : List Role} (among : roles ⊆ before ++ after) :
      (roles.filter fun old => old.id == id) = [] :=
    List.filter_eq_nil_iff.mpr fun other member => by simpa using strangers other (among member)
  simp [lastWithId?, none_of (List.subset_append_left before after), none_of (List.subset_append_right before after)]

-- A group of declared and observed roles, and all others in front of it and behind it. What a role
-- of the group is compared with outside of it never fits.
section Group

variable {declared observed declaredBefore declaredAfter observedBefore observedAfter : List Role}
  (unrelated : Unrelated (declared ++ observed)
    ((declaredBefore ++ declaredAfter) ++ (observedBefore ++ observedAfter)))
include unrelated

theorem vacated_amid (member : role ∈ declared) :
    Vacated (declaredBefore ++ declared ++ declaredAfter) (observedBefore ++ observed ++ observedAfter) role.name ↔
      Vacated declared observed role.name := by
  have inside : role ∈ declared ++ observed := List.mem_append_left _ member
  have alone {pin : Role} (pinMember : pin ∈ declared) (numbered : pin.hasId) :
      lastWithId? (observedBefore ++ observed ++ observedAfter) pin.id = lastWithId? observed pin.id := by
    apply lastWithId_amid
    intro stranger foreign
    exact (unrelated.ids pin (List.mem_append_left _ pinMember) stranger (List.mem_append_right _ foreign) numbered).symm
  constructor
  · intro vacated
    obtain ⟨pin, pinMember, numbered, old, last, named, renamed⟩ := vacated
    obtain ⟨oldMember, sameId⟩ := mem_of_lastWithId last
    -- The role that is renamed had the name, so it is of the group, and the id takes the pin along.
    have oldInside : old ∈ observed := mem_own oldMember fun foreign =>
      unrelated.names role inside old (List.mem_append_right _ foreign) named.symm
    have pinInside : pin ∈ declared := mem_own pinMember fun foreign =>
      unrelated.ids old (List.mem_append_right _ oldInside) pin (List.mem_append_left _ foreign)
        (hasId_of_same_id sameId numbered) sameId
    rw [alone pinInside numbered] at last
    exact ⟨pin, pinInside, numbered, old, last, named, renamed⟩
  · intro vacated
    obtain ⟨pin, pinMember, numbered, old, last, named, renamed⟩ := vacated
    rw [← alone pinMember numbered] at last
    exact ⟨pin, by simp [pinMember], numbered, old, last, named, renamed⟩

end Group
end Role

namespace Pass
open Role

-- What a plan does about a declared role.
def fate (pass : Pass) (declared observed : List Role) (role : Role) : Action :=
  if Matched observed role then
    if role.hasId then pass.updateRole role ((lastWithId? observed role.id).getD role)
    else pass.renew declared observed role
  else pass.createRole role

-- Every declared role has one fate, whatever segment of the plan it stands in.
theorem rolePlan_fates (pass : Pass) (declared observed : List Role) :
    (pass.rolePlan declared observed).Perm
      ((observed.filter fun old => ¬ Matched declared old).map pass.deleteRole ++
        declared.map (pass.fate declared observed)) := by
  have segment (keep : Role → Bool) (action : Role → Action)
      (known : ∀ role, keep role → action role = pass.fate declared observed role) :
      (declared.filter keep).map action = (declared.filter keep).map (pass.fate declared observed) :=
    List.map_congr_left fun role found => known role (List.mem_filter.mp found).2
  have numbered := segment (fun role => Matched observed role ∧ role.hasId)
    (fun role => pass.updateRole role ((lastWithId? observed role.id).getD role))
    fun role known => by simp [fate, of_decide_eq_true known]
  have unnumbered := segment (fun role => Matched observed role ∧ ¬ role.hasId) (pass.renew declared observed)
    fun role known => by simp [fate, of_decide_eq_true known]
  have created := segment (fun role => ¬ Matched observed role) pass.createRole
    fun role known => by simp [fate, of_decide_eq_true known]
  have written := (segments_perm declared observed).map (pass.fate declared observed)
  rw [List.map_append, List.map_append, List.append_assoc] at written
  rw [rolePlan_scan, scanPlan, numbered, unnumbered, created, List.append_assoc, List.append_assoc]
  exact written.append_left _

section Group

variable {declared observed declaredBefore declaredAfter observedBefore observedAfter : List Role}
  (unrelated : Unrelated (declared ++ observed)
    ((declaredBefore ++ declaredAfter) ++ (observedBefore ++ observedAfter)))
include unrelated

theorem fate_amid (pass : Pass) {role : Role} (member : role ∈ declared) :
    pass.fate (declaredBefore ++ declared ++ declaredAfter) (observedBefore ++ observed ++ observedAfter) role =
      pass.fate declared observed role := by
  have inside : role ∈ declared ++ observed := List.mem_append_left _ member
  have matched : Matched (observedBefore ++ observed ++ observedAfter) role ↔ Matched observed role :=
    matched_amid fun stranger foreign => unrelated.not_same inside (List.mem_append_right _ foreign)
  simp only [fate, renew, matched, vacated_amid unrelated member]
  split
  · split
    · rename_i numbered
      rw [lastWithId_amid fun stranger foreign =>
        (unrelated.ids role inside stranger (List.mem_append_right _ foreign) numbered).symm]
    · rfl
  · rfl

theorem surplus_amid :
    (observed.filter fun old => ¬ Matched (declaredBefore ++ declared ++ declaredAfter) old) =
      observed.filter fun old => ¬ Matched declared old := by
  apply List.filter_congr
  intro old member
  have inside : old ∈ declared ++ observed := List.mem_append_right _ member
  have matched : Matched (declaredBefore ++ declared ++ declaredAfter) old ↔ Matched declared old :=
    matched_amid fun stranger foreign => unrelated.not_same inside (List.mem_append_left _ foreign)
  simp only [matched]

end Group

-- Two groups of roles that share no name and no id are planned as if each of them were alone, whatever
-- repeats inside of a group.
theorem rolePlan_unrelated (pass : Pass) (declared observed otherDeclared otherObserved : List Role)
    (unrelated : Unrelated (declared ++ observed) (otherDeclared ++ otherObserved)) :
    (pass.rolePlan (declared ++ otherDeclared) (observed ++ otherObserved)).Perm
      (pass.rolePlan declared observed ++ pass.rolePlan otherDeclared otherObserved) := by
  have left : Unrelated (declared ++ observed) (([] ++ otherDeclared) ++ ([] ++ otherObserved)) := unrelated
  have right : Unrelated (otherDeclared ++ otherObserved) ((declared ++ []) ++ (observed ++ [])) := by
    simpa using unrelated.symm
  have leftFates : declared.map (pass.fate (declared ++ otherDeclared) (observed ++ otherObserved)) =
      declared.map (pass.fate declared observed) :=
    List.map_congr_left fun role member => fate_amid left pass member
  have rightFates : otherDeclared.map (pass.fate (declared ++ otherDeclared) (observed ++ otherObserved)) =
      otherDeclared.map (pass.fate otherDeclared otherObserved) :=
    List.map_congr_left fun role member => by simpa using fate_amid right pass member
  have leftSurplus : (observed.filter fun old => ¬ Matched (declared ++ otherDeclared) old) =
      observed.filter fun old => ¬ Matched declared old := surplus_amid left
  have rightSurplus : (otherObserved.filter fun old => ¬ Matched (declared ++ otherDeclared) old) =
      otherObserved.filter fun old => ¬ Matched otherDeclared old := by
    simpa using surplus_amid right
  have together := pass.rolePlan_fates (declared ++ otherDeclared) (observed ++ otherObserved)
  rw [List.filter_append, List.map_append, List.map_append, leftFates, rightFates, leftSurplus, rightSurplus]
    at together
  have apart := (pass.rolePlan_fates declared observed).append (pass.rolePlan_fates otherDeclared otherObserved)
  refine together.trans (List.Perm.trans ?_ apart.symm)
  rw [List.append_assoc, List.append_assoc]
  exact (List.perm_append_comm_assoc _ _ _).append_left _

-- In either group names repeat, a rename leaves a name that is declared again, and some ids are empty.
theorem rolePlan_unrelated_repeated_names :
    let declared := [withId "1" "b", named "a", named "a"]
    let observed := [withId "1" "c", withId "1" "a", named "b"]
    let otherDeclared := [named "x", withId "2" "y", withId "3" "x"]
    let otherObserved := [named "x", withId "2" "x", withId "4" "x"]
    Unrelated (declared ++ observed) (otherDeclared ++ otherObserved) ∧
      ((Pass.of {} default).rolePlan (declared ++ otherDeclared) (observed ++ otherObserved)).Perm
        ((Pass.of {} default).rolePlan declared observed ++
          (Pass.of {} default).rolePlan otherDeclared otherObserved) := by
  intro declared observed otherDeclared otherObserved
  have unrelated : Unrelated (declared ++ observed) (otherDeclared ++ otherObserved) := by decide
  exact ⟨unrelated, rolePlan_unrelated _ declared observed otherDeclared otherObserved unrelated⟩

end Pass
end RealmPlan
