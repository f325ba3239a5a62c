import Mathlib.Data.List.DropRight
import RealmPlan.Violation
import RealmPlan.Proofs.Uniqueness

namespace RealmPlan
namespace Text

-- A text without the blanks at its two ends.
def trim (s : String) : String := trimEnd (String.ofList (dropBlanks s.toList))

-- Blanks between other characters stay, so only a text that is all blank leaves nothing.
theorem trim_eq_empty_iff (s : String) : trim s = "" ↔ allBlank s = true := by
  have emptied (cs : List Char) : String.ofList cs = "" ↔ cs = [] := by
    rw [← String.toList_eq_nil_iff, String.toList_ofList]
  have unblanked (cs : List Char) : dropBlanks cs = [] ↔ ∀ c ∈ cs, isBlank c = true := List.dropWhile_eq_nil_iff
  have again (cs : List Char) : dropBlanks (dropBlanks cs) = dropBlanks cs := List.dropWhile_idempotent isBlank cs
  rw [trim, trimEnd, emptied, List.reverse_eq_nil_iff, String.toList_ofList, unblanked, allBlank_iff]
  simp only [List.mem_reverse]
  rw [← unblanked, again, unblanked]

end Text

namespace Violation
open Role

variable {earlier rest roles : List Role} {role : Role} {violation : Violation}

-- What keeps a role from being accepted behind others. An empty id is no id and may be there again.
def Flawed (earlier : List Role) (role : Role) : Prop :=
  Text.trim role.name = "" ∨ (∃ other ∈ earlier, other.name = role.name) ∨
    role.id ≠ "" ∧ ∃ other ∈ earlier, other.id = role.id

-- Which of its flaws a role is told of that stands at `place`, behind `earlier`: a blank name before a repeated
-- one, and a repeated id last.
inductive Flaw (place : Nat) (earlier : List Role) (role : Role) : Violation → Prop where
  | blank (blank : Text.trim role.name = "") : Flaw place earlier role (.emptyRoleName place)
  | name (named : Text.trim role.name ≠ "") (repeated : ∃ other ∈ earlier, other.name = role.name) :
      Flaw place earlier role (.duplicateRoleName role.name)
  | id (named : Text.trim role.name ≠ "") (unrepeated : ∀ other ∈ earlier, other.name ≠ role.name)
      (numbered : role.id ≠ "") {first : Role} (only : (earlier.filter fun other => other.id == role.id) = [first]) :
      Flaw place earlier role (.duplicateRoleId role.id first.name role.name)

-- Roles that can be planned: each has a name, and what `Declared` asks for holds.
structure Sound (roles : List Role) : Prop extends Declared roles where
  named : ∀ role ∈ roles, Text.trim role.name ≠ ""

theorem Sound.nil : Sound [] := ⟨⟨.nil, .nil⟩, by simp⟩

theorem Sound.sublist (sound : Sound roles) (part : earlier.Sublist roles) : Sound earlier where
  names := (part.map _).nodup sound.names
  ids := ((part.filter _).map _).nodup sound.ids
  named role member := sound.named role (part.subset member)

theorem names_snoc : ((earlier ++ [role]).map (·.name)).Nodup ↔
    (earlier.map (·.name)).Nodup ∧ ∀ other ∈ earlier, other.name ≠ role.name := by
  rw [List.map_append, List.nodup_append]
  simp

theorem distinctIds_snoc : DistinctIds (earlier ++ [role]) ↔
    DistinctIds earlier ∧ (role.hasId → ∀ other ∈ earlier, other.id ≠ role.id) := by
  rw [DistinctIds, List.filter_append, List.map_append, List.nodup_append, DistinctIds]
  cases numbered : role.hasId with
  | false => simp [numbered]
  | true =>
    have shared (other : Role) (same : other.id = role.id) : other.hasId := hasId_of_same_id same numbered
    simp only [numbered, List.filter_cons_of_pos, List.filter_nil, List.map_cons, List.map_nil, List.nodup_singleton,
      List.mem_map, List.mem_filter, List.mem_singleton, forall_eq, true_and, true_implies]
    refine and_congr_right fun _ => ⟨fun apart other member same => ?_, fun apart id taken same => ?_⟩
    · exact apart _ ⟨other, ⟨member, shared other same⟩, rfl⟩ same
    · obtain ⟨other, found, rfl⟩ := taken
      exact apart other found.1 same

-- One more role is accepted exactly if it has no flaw behind those that have been accepted.
theorem sound_snoc : Sound (earlier ++ [role]) ↔ Sound earlier ∧ ¬ Flawed earlier role := by
  have named : (∀ other ∈ earlier ++ [role], Text.trim other.name ≠ "") ↔
      (∀ other ∈ earlier, Text.trim other.name ≠ "") ∧ Text.trim role.name ≠ "" := by
    simp [or_imp, forall_and]
  constructor
  · intro sound
    obtain ⟨names, unrepeated⟩ := names_snoc.mp sound.names
    obtain ⟨ids, unshared⟩ := distinctIds_snoc.mp sound.ids
    obtain ⟨sofar, last⟩ := named.mp sound.named
    refine ⟨⟨⟨names, ids⟩, sofar⟩, ?_⟩
    rintro (blank | ⟨other, member, same⟩ | ⟨numbered, other, member, same⟩)
    · exact last blank
    · exact unrepeated other member same
    · exact unshared (hasId_iff.mpr numbered) other member same
  · intro accepted
    obtain ⟨sound, flawless⟩ := accepted
    simp only [Flawed, not_or, not_and, not_exists] at flawless
    obtain ⟨last, unrepeated, unshared⟩ := flawless
    exact ⟨⟨names_snoc.mpr ⟨sound.names, unrepeated⟩,
      distinctIds_snoc.mpr ⟨sound.ids, fun numbered => unshared (hasId_iff.mp numbered)⟩⟩,
      named.mpr ⟨sound.named, last⟩⟩

theorem ofRole?_eq (earlier : List Role) (role : Role) :
    ofRole? earlier role =
      if Text.trim role.name = "" then some (.emptyRoleName earlier.length)
      else if ∃ other ∈ earlier, other.name = role.name then some (.duplicateRoleName role.name)
      else if role.id ≠ "" then
        (earlier.find? (·.id == role.id)).map fun first => .duplicateRoleId role.id first.name role.name
      else none := by
  simp only [ofRole?, Text.trim_eq_empty_iff, List.any_eq_true, beq_iff_eq, hasId_iff]

theorem ofRole?_eq_none_iff : ofRole? earlier role = none ↔ ¬ Flawed earlier role := by
  rw [ofRole?_eq, Flawed]
  split
  · rename_i blank
    simp [blank]
  · rename_i named
    split
    · rename_i repeated
      simp only [reduceCtorEq, repeated, true_or, or_true, not_true_eq_false]
    · rename_i unrepeated
      split
      · rename_i numbered
        simp [named, unrepeated, numbered, List.find?_eq_none]
      · rename_i unnumbered
        simp [named, unrepeated, unnumbered]

-- Roles that have been accepted share no id, so the first one with an id is the only one.
theorem find?_eq_some_iff_only (sound : Sound roles) (numbered : role.hasId) {first : Role} :
    roles.find? (·.id == role.id) = some first ↔ (roles.filter fun other => other.id == role.id) = [first] := by
  rw [← List.head?_filter]
  constructor
  · intro head
    obtain ⟨others, split⟩ := List.head?_eq_some_iff.mp head
    have once := sound.nodup.filter fun other => other.id == role.id
    have bearer (other : Role) (found : other ∈ first :: others) : other ∈ roles ∧ other.id = role.id := by
      rw [← split, List.mem_filter, beq_iff_eq] at found
      exact found
    rw [split, List.nodup_cons] at once
    obtain ⟨member, same⟩ := bearer first List.mem_cons_self
    have alone : others = [] := by
      apply List.eq_nil_iff_forall_not_mem.mpr
      intro other found
      obtain ⟨otherMember, otherSame⟩ := bearer other (List.mem_cons_of_mem _ found)
      have one := sound.same_id otherMember member (hasId_of_same_id same numbered) (otherSame.trans same.symm)
      exact once.1 (one ▸ found)
    rw [split, alone]
  · intro only
    rw [only, List.head?_cons]

theorem ofRole?_eq_some_iff (sound : Sound earlier) :
    ofRole? earlier role = some violation ↔ Flaw earlier.length earlier role violation := by
  rw [ofRole?_eq]
  constructor
  · intro told
    split at told
    · rename_i blank
      cases Option.some.inj told
      exact .blank blank
    · rename_i named
      split at told
      · rename_i repeated
        cases Option.some.inj told
        exact .name named repeated
      · rename_i unrepeated
        split at told
        · rename_i numbered
          obtain ⟨first, found, rfl⟩ := Option.map_eq_some_iff.mp told
          have only := (find?_eq_some_iff_only sound (hasId_iff.mpr numbered)).mp found
          exact .id named (fun other member same => unrepeated ⟨other, member, same⟩) numbered only
        · cases told
  · intro flaw
    cases flaw with
    | blank blank => rw [if_pos blank]
    | name named repeated => rw [if_neg named, if_pos repeated]
    | id named unrepeated numbered only =>
      have fresh : ¬ ∃ other ∈ earlier, other.name = role.name :=
        fun repeated => repeated.elim fun other found => unrepeated other found.1 found.2
      rw [if_neg named, if_neg fresh, if_pos numbered,
        (find?_eq_some_iff_only sound (hasId_iff.mpr numbered)).mpr only, Option.map_some]

-- Roles are accepted one after the other. What has been accepted is sound, and that is all that is known of it.
theorem ofRoles?_eq_none_iff (sound : Sound earlier) : ofRoles? earlier rest = none ↔ Sound (earlier ++ rest) := by
  induction rest generalizing earlier with
  | nil => simpa [ofRoles?] using sound
  | cons role rest ih =>
    rw [ofRoles?, Option.or_eq_none_iff, ofRole?_eq_none_iff, List.append_cons earlier role rest]
    constructor
    · intro accepted
      exact (ih (sound_snoc.mpr ⟨sound, accepted.1⟩)).mp accepted.2
    · intro all
      have upTo := all.sublist (List.sublist_append_left (earlier ++ [role]) rest)
      exact ⟨(sound_snoc.mp upTo).2, (ih upTo).mpr all⟩

theorem ofRoles?_append (earlier front back : List Role) :
    ofRoles? earlier (front ++ back) = (ofRoles? earlier front).or (ofRoles? (earlier ++ front) back) := by
  induction front generalizing earlier with
  | nil => simp [ofRoles?]
  | cons role front ih =>
    rw [List.cons_append, ofRoles?, ofRoles?, ih, Option.or_assoc, List.append_cons earlier role front]

theorem exists_first (told : ofRoles? earlier roles = some violation) :
    ∃ front role back, roles = front ++ role :: back ∧ ofRoles? earlier front = none ∧
      ofRole? (earlier ++ front) role = some violation := by
  induction roles generalizing earlier with
  | nil => cases told
  | cons role rest ih =>
    rcases Option.or_eq_some_iff.mp told with here | ⟨accepted, later⟩
    · exact ⟨[], role, rest, rfl, rfl, by rwa [List.append_nil]⟩
    · obtain ⟨front, next, back, split, passed, found⟩ := ih later
      rw [← List.append_cons earlier role front] at found
      refine ⟨role :: front, next, back, by rw [split, List.cons_append], ?_, found⟩
      rw [ofRoles?, accepted, passed, Option.none_or]

-- The role at a place is looked at behind all roles that stand before it.
def FlawedAt (roles : List Role) (place : Nat) : Prop :=
  ∃ role, roles[place]? = some role ∧ Flawed (roles.take place) role

theorem sound_take_iff {place : Nat} :
    Sound (roles.take place) ↔ ∀ earlier < place, ¬ FlawedAt roles earlier := by
  induction place with
  | zero => simpa using Sound.nil
  | succ place ih =>
    have here : Sound (roles.take (place + 1)) ↔ Sound (roles.take place) ∧ ¬ FlawedAt roles place := by
      rw [List.take_add_one]
      cases found : roles[place]? with
      | none => simp [FlawedAt, found]
      | some role => simp [FlawedAt, found, sound_snoc]
    rw [here, ih, Nat.forall_lt_succ_right]

-- The first role with a flaw is the one that is told of.
structure FirstFlaw (roles : List Role) (place : Nat) (violation : Violation) : Prop where
  here : ∃ role, roles[place]? = some role ∧ Flaw place (roles.take place) role violation
  before : ∀ earlier < place, ¬ FlawedAt roles earlier

theorem ofRoles?_eq_some_iff : ofRoles? [] roles = some violation ↔ ∃ place, FirstFlaw roles place violation := by
  constructor
  · intro told
    obtain ⟨front, role, back, rfl, passed, found⟩ := exists_first told
    have sound : Sound front := (ofRoles?_eq_none_iff .nil).mp passed
    have upTo : (front ++ role :: back).take front.length = front := List.take_left' rfl
    refine ⟨front.length, ⟨role, by simp, ?_⟩, sound_take_iff.mp (by rwa [upTo])⟩
    rw [upTo]
    exact (ofRole?_eq_some_iff sound).mp found
  · intro first
    obtain ⟨place, ⟨role, found, flaw⟩, before⟩ := first
    have sound := sound_take_iff.mpr before
    obtain ⟨within, rfl⟩ := List.getElem?_eq_some_iff.mp found
    have accepted : ofRoles? [] (roles.take place) = none := (ofRoles?_eq_none_iff .nil).mpr sound
    have told : ofRole? (roles.take place) roles[place] = some violation := by
      rw [ofRole?_eq_some_iff sound, List.length_take_of_le within.le]
      exact flaw
    rw [← List.take_append_drop place roles, List.drop_eq_getElem_cons within, ofRoles?_append, accepted,
      Option.none_or, ofRoles?, List.nil_append, told, Option.some_or]

-- What is asked of a resource before it is planned.
structure Acceptable (maxRoles : Nat) (resource : Resource) : Prop where
  clientId : Text.trim resource.clientId ≠ ""
  realm : Text.trim resource.spec.realm ≠ ""
  count : resource.spec.roles.length ≤ maxRoles
  roles : Sound resource.spec.roles

-- What a resource is refused for. Of several things that are wrong with it the first one counts.
inductive Refused (maxRoles : Nat) (resource : Resource) : Violation → Prop where
  | clientId (blank : Text.trim resource.clientId = "") : Refused maxRoles resource .emptyClientId
  | realm (clientId : Text.trim resource.clientId ≠ "") (blank : Text.trim resource.spec.realm = "") :
      Refused maxRoles resource .emptyRealm
  | count (clientId : Text.trim resource.clientId ≠ "") (realm : Text.trim resource.spec.realm ≠ "")
      (many : maxRoles < resource.spec.roles.length) :
      Refused maxRoles resource (.tooManyRoles resource.spec.roles.length maxRoles)
  | role (clientId : Text.trim resource.clientId ≠ "") (realm : Text.trim resource.spec.realm ≠ "")
      (count : resource.spec.roles.length ≤ maxRoles) {place : Nat} {violation : Violation}
      (first : FirstFlaw resource.spec.roles place violation) : Refused maxRoles resource violation

variable {maxRoles : Nat} {resource : Resource}

theorem first?_tests (maxRoles : Nat) (resource : Resource) :
    first? maxRoles resource =
      if Text.trim resource.clientId = "" then some .emptyClientId
      else if Text.trim resource.spec.realm = "" then some .emptyRealm
      else if maxRoles < resource.spec.roles.length then some (.tooManyRoles resource.spec.roles.length maxRoles)
      else ofRoles? [] resource.spec.roles := by
  simp only [first?, Text.trim_eq_empty_iff]

-- Each test either refuses or passes on what it has found, and what has passed them all is acceptable.
theorem acceptable_or_refused (maxRoles : Nat) (resource : Resource) :
    (first? maxRoles resource = none ∧ Acceptable maxRoles resource) ∨
      ∃ violation, first? maxRoles resource = some violation ∧ Refused maxRoles resource violation := by
  rw [first?_tests]
  split
  · rename_i blank
    exact .inr ⟨_, rfl, .clientId blank⟩
  · rename_i clientId
    split
    · rename_i blank
      exact .inr ⟨_, rfl, .realm clientId blank⟩
    · rename_i realm
      split
      · rename_i many
        exact .inr ⟨_, rfl, .count clientId realm many⟩
      · rename_i few
        have count := Nat.le_of_not_lt few
        cases told : ofRoles? [] resource.spec.roles with
        | none => exact .inl ⟨rfl, clientId, realm, count, (ofRoles?_eq_none_iff .nil).mp told⟩
        | some violation =>
          obtain ⟨place, first⟩ := ofRoles?_eq_some_iff.mp told
          exact .inr ⟨violation, rfl, .role clientId realm count first⟩

theorem first?_eq_none_iff : first? maxRoles resource = none ↔ Acceptable maxRoles resource := by
  constructor
  · intro passed
    rcases acceptable_or_refused maxRoles resource with ⟨_, acceptable⟩ | ⟨violation, told, _⟩
    · exact acceptable
    · cases passed.symm.trans told
  · intro acceptable
    rw [first?_tests, if_neg acceptable.clientId, if_neg acceptable.realm, if_neg (Nat.not_lt.mpr acceptable.count)]
    exact (ofRoles?_eq_none_iff .nil).mpr acceptable.roles

-- What is accepted is what planning relies on.
theorem declared_of_accepted (accepted : first? maxRoles resource = none) : Declared resource.spec.roles :=
  (first?_eq_none_iff.mp accepted).roles.toDeclared

theorem refused_of_told (told : first? maxRoles resource = some violation) : Refused maxRoles resource violation := by
  rcases acceptable_or_refused maxRoles resource with ⟨passed, _⟩ | ⟨other, toldOther, refused⟩
  · cases passed.symm.trans told
  · cases Option.some.inj (toldOther.symm.trans told)
    exact refused

theorem told_of_refused (refused : Refused maxRoles resource violation) :
    first? maxRoles resource = some violation := by
  rw [first?_tests]
  cases refused with
  | clientId blank => rw [if_pos blank]
  | realm clientId blank => rw [if_neg clientId, if_pos blank]
  | count clientId realm many => rw [if_neg clientId, if_neg realm, if_pos many]
  | role clientId realm few first =>
    rw [if_neg clientId, if_neg realm, if_neg (Nat.not_lt.mpr few)]
    exact ofRoles?_eq_some_iff.mpr ⟨_, first⟩

-- A resource passes exactly if nothing is wrong with it, and is otherwise refused for the first thing that is.
theorem refusal_exact (maxRoles : Nat) (resource : Resource) :
    (first? maxRoles resource = none ↔ Acceptable maxRoles resource) ∧
      ∀ violation, first? maxRoles resource = some violation ↔ Refused maxRoles resource violation :=
  ⟨first?_eq_none_iff, fun _ => ⟨refused_of_told, told_of_refused⟩⟩

-- The third role repeats the name of the first and the id of the second, and the name is told.
example : first? 3 { metadata := {}, spec := {
    realm := "main", client := { clientId := "app" }
    roles := [named "a", withId "1" "b", withId "1" "a"] } } = some (.duplicateRoleName "a") := by
  decide +kernel

end Violation
end RealmPlan
