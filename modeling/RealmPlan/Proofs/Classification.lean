import RealmPlan.Planning
import RealmPlan.Proofs.Uniqueness

namespace RealmPlan.Role

-- An id that is declared is an id of a declared role that has one.
def Pinned (declared : List Role) (role : Role) : Prop := ∃ pin ∈ declared, pin.id = role.id

instance (declared : List Role) (role : Role) : Decidable (Pinned declared role) :=
  inferInstanceAs (Decidable (∃ pin ∈ declared, pin.id = role.id))

-- An observed role has an id, so the other side's id alone tells how the two are compared.
theorem denotesSame_of_identified {a b : Role} (identified : b.hasId) :
    a.denotesSame b = if a.hasId then a.id == b.id else a.name == b.name := by
  simp [denotesSame, identified]

theorem denotesSame_comm (a b : Role) : a.denotesSame b = b.denotesSame a := by
  simp only [denotesSame, Bool.and_comm b.hasId, BEq.comm (a := b.id), BEq.comm (a := b.name)]

namespace Change

def surplus (declared observed : List Role) : List Role :=
  observed.filter fun role => !anyDenotesSame declared role

def known (declared observed : List Role) : List Role :=
  declared.filter fun role => anyDenotesSame observed role

def missing (declared observed : List Role) : List Role :=
  declared.filter fun role => !anyDenotesSame observed role

def updates (declared observed : List Role) : List Change :=
  ((known declared observed).filter (·.hasId)).map (pinned observed)

def vacated (declared observed : List Role) : List String :=
  (updates declared observed).filterMap vacates?

def byName (declared observed : List Role) : List Role :=
  (known declared observed).filter (!·.hasId)

theorem all_eq (declared observed : List Role) :
    all declared observed =
      (surplus declared observed).map .remove ++ updates declared observed ++
        (byName declared observed).map (named (vacated declared observed)) ++
        (missing declared observed).map .create := by
  simp only [all, split_eq, List.partition_eq_filter_filter]
  rfl

-- The declared roles whose id is observed, each with the observed role.
def pins (declared observed : List Role) : List (Role × Role) :=
  (declared.filter (·.hasId)).filterMap fun role =>
    (observed.find? (·.id == role.id)).map fun old => (role, old)

-- All other declared roles, in the order in which they are planned.
def others (declared observed : List Role) : List Role :=
  byName declared observed ++ missing declared observed

-- Without an id, a declared role goes on as the observed role of its name that no other has.
def keeps (declared observed : List Role) (role : Role) : Bool :=
  !role.hasId && observed.any fun old => old.name == role.name && !decide (Pinned declared old)

def keepers (declared observed : List Role) : List Role :=
  (others declared observed).filter (keeps declared observed)

def creations (declared observed : List Role) : List Role :=
  (others declared observed).filter (!keeps declared observed ·)

variable {declared observed : List Role} {role old : Role}

theorem mem_surplus (observes : Observed observed) :
    old ∈ surplus declared observed ↔
      old ∈ observed ∧ ¬ Pinned declared old ∧
        ∀ role ∈ declared, role.hasId = false → role.name ≠ old.name := by
  simp only [surplus, List.mem_filter, and_congr_right_iff]
  intro member
  have identified := observes.identified old member
  simp only [anyDenotesSame, denotesSame_of_identified identified, Bool.not_eq_true',
    List.any_eq_false, Pinned]
  constructor
  · intro apart
    refine ⟨?_, fun role declares unnamed => ?_⟩
    · intro pinned
      obtain ⟨pin, declares, same⟩ := pinned
      have pinned := hasId_of_same_id same identified
      exact apart pin declares (by simp [pinned, same])
    · simpa [unnamed] using apart role declares
  · intro apart role declares
    obtain ⟨unpinned, unnamed⟩ := apart
    cases numbered : role.hasId with
    | true => simpa using fun same => unpinned ⟨role, declares, same⟩
    | false => simpa using unnamed role declares numbered

theorem anyDenotesSame_observed (observes : Observed observed) :
    anyDenotesSame observed role = true ↔
      ∃ old ∈ observed, if role.hasId then old.id = role.id else old.name = role.name := by
  simp only [anyDenotesSame, List.any_eq_true]
  constructor
  · intro denoted
    obtain ⟨old, member, same⟩ := denoted
    rw [denotesSame_comm, denotesSame_of_identified (observes.identified old member)] at same
    refine ⟨old, member, ?_⟩
    split at same <;> simp_all
  · intro denoted
    obtain ⟨old, member, same⟩ := denoted
    refine ⟨old, member, ?_⟩
    rw [denotesSame_comm, denotesSame_of_identified (observes.identified old member)]
    split at same <;> simp_all

theorem find_observed (observes : Observed observed) (member : old ∈ observed) (same : old.id = role.id) :
    observed.find? (·.id == role.id) = some old := by
  rw [← same]
  exact find_unique Role.id (fun other otherMember => observes.same_id otherMember member) member

theorem mem_pins (observes : Observed observed) :
    (role, old) ∈ pins declared observed ↔
      role ∈ declared ∧ role.hasId ∧ old ∈ observed ∧ old.id = role.id := by
  simp only [pins, List.mem_filterMap, List.mem_filter, Option.map_eq_some_iff, Prod.mk.injEq]
  constructor
  · intro found
    obtain ⟨pin, ⟨declares, numbered⟩, found, search, rfl, rfl⟩ := found
    exact ⟨declares, numbered, List.mem_of_find?_eq_some search, by simpa using List.find?_some search⟩
  · intro known
    obtain ⟨declares, numbered, member, same⟩ := known
    exact ⟨role, ⟨declares, numbered⟩, old, find_observed observes member same, rfl, rfl⟩

theorem keeps_iff :
    keeps declared observed role = true ↔
      role.hasId = false ∧ ∃ old ∈ observed, old.name = role.name ∧ ¬ Pinned declared old := by
  simp [keeps]

theorem mem_byName (observes : Observed observed) :
    role ∈ byName declared observed ↔
      role ∈ declared ∧ role.hasId = false ∧ ∃ old ∈ observed, old.name = role.name := by
  simp only [byName, known, List.mem_filter, anyDenotesSame_observed observes]
  cases role.hasId <;> simp

theorem mem_missing (observes : Observed observed) :
    role ∈ missing declared observed ↔
      role ∈ declared ∧ ∀ old ∈ observed, if role.hasId then old.id ≠ role.id else old.name ≠ role.name := by
  simp only [missing, List.mem_filter, and_congr_right_iff, Bool.not_eq_true', ← Bool.not_eq_true,
    anyDenotesSame_observed observes]
  intro _
  cases role.hasId <;> simp

theorem mem_others (observes : Observed observed) :
    role ∈ others declared observed ↔
      role ∈ declared ∧ (role.hasId → ∀ old ∈ observed, old.id ≠ role.id) := by
  rw [others, List.mem_append, mem_byName observes, mem_missing observes]
  cases role.hasId with
  | true => simp
  | false =>
    have decided := Classical.em (∃ old ∈ observed, old.name = role.name)
    simp only [Bool.false_eq_true, if_false, false_implies, and_true, true_and, ← and_or_left]
    refine and_iff_left_of_imp fun _ => decided.imp_right fun free old member same => ?_
    exact free ⟨old, member, same⟩

-- The declared role that goes on as an observed one: by its id, or by its name where no declared
-- id has taken the observed role.
def Inherits (declared : List Role) (role old : Role) : Prop :=
  role ∈ declared ∧ if role.hasId then old.id = role.id else old.name = role.name ∧ ¬ Pinned declared old

theorem inherits_numbered (numbered : role.hasId) :
    Inherits declared role old ↔ role ∈ declared ∧ old.id = role.id := by
  simp [Inherits, numbered]

theorem inherits_unnumbered (unnumbered : role.hasId = false) :
    Inherits declared role old ↔ role ∈ declared ∧ old.name = role.name ∧ ¬ Pinned declared old := by
  simp [Inherits, unnumbered]

theorem Inherits.one_predecessor {a b : Role} (observes : Observed observed) (left : a ∈ observed)
    (right : b ∈ observed) (fromA : Inherits declared role a) (fromB : Inherits declared role b) : a = b := by
  cases numbered : role.hasId with
  | true =>
    rw [inherits_numbered numbered] at fromA fromB
    exact observes.same_id left right (fromA.2.trans fromB.2.symm)
  | false =>
    rw [inherits_unnumbered numbered] at fromA fromB
    exact observes.same_name left right (fromA.2.1.trans fromB.2.1.symm)

theorem Inherits.not_surplus (observes : Observed observed) (inherits : Inherits declared role old) :
    old ∉ surplus declared observed := by
  rw [mem_surplus observes]
  intro goes
  obtain ⟨_, unpinned, unnamed⟩ := goes
  cases numbered : role.hasId with
  | true =>
    rw [inherits_numbered numbered] at inherits
    exact unpinned ⟨role, inherits.1, inherits.2.symm⟩
  | false =>
    rw [inherits_unnumbered numbered] at inherits
    exact unnamed role inherits.1 numbered inherits.2.1.symm

theorem exists_heir (observes : Observed observed) (member : old ∈ observed)
    (stays : old ∉ surplus declared observed) : ∃ role, Inherits declared role old := by
  by_cases pinned : Pinned declared old
  · obtain ⟨pin, declares, same⟩ := pinned
    have numbered := hasId_of_same_id same (observes.identified old member)
    exact ⟨pin, (inherits_numbered numbered).mpr ⟨declares, same.symm⟩⟩
  · rw [mem_surplus observes] at stays
    push Not at stays
    obtain ⟨role, declares, unnumbered, same⟩ := stays member pinned
    exact ⟨role, (inherits_unnumbered unnumbered).mpr ⟨declares, same.symm, pinned⟩⟩

theorem mem_keepers (observes : Observed observed) :
    role ∈ keepers declared observed ↔
      role.hasId = false ∧ ∃ old ∈ observed, Inherits declared role old := by
  rw [keepers, List.mem_filter, mem_others observes, keeps_iff]
  constructor
  · intro kept
    obtain ⟨⟨declares, _⟩, unnumbered, old, member, same, unpinned⟩ := kept
    exact ⟨unnumbered, old, member, (inherits_unnumbered unnumbered).mpr ⟨declares, same, unpinned⟩⟩
  · intro heir
    obtain ⟨unnumbered, old, member, inherits⟩ := heir
    obtain ⟨declares, claim⟩ := (inherits_unnumbered unnumbered).mp inherits
    exact ⟨⟨declares, by simp [unnumbered]⟩, unnumbered, old, member, claim⟩

theorem mem_creations (observes : Observed observed) :
    role ∈ creations declared observed ↔
      role ∈ declared ∧ ∀ old ∈ observed, ¬ Inherits declared role old := by
  rw [creations, List.mem_filter, mem_others observes, Bool.not_eq_true', ← Bool.not_eq_true, keeps_iff, and_assoc]
  apply and_congr_right
  intro declares
  cases numbered : role.hasId with
  | true => simp [inherits_numbered numbered, declares]
  | false =>
    simp only [inherits_unnumbered numbered, declares, Bool.false_eq_true, false_implies, true_and]
    push Not
    rfl

theorem surplus_subset : surplus declared observed ⊆ observed := List.filter_sublist.subset

theorem surplus_nodup (observes : Observed observed) : (surplus declared observed).Nodup :=
  observes.nodup.filter _

theorem pins_nodup (declares : Declared declared) : (pins declared observed).Nodup := by
  refine List.Nodup.filterMap ?_ (declares.nodup.filter _)
  intro a b pin fromA fromB
  obtain ⟨_, _, rfl⟩ := Option.map_eq_some_iff.mp fromA
  obtain ⟨_, _, same⟩ := Option.map_eq_some_iff.mp fromB
  exact (congrArg Prod.fst same).symm

theorem pins_heads_sublist (declared observed : List Role) :
    ((pins declared observed).map Prod.fst).Sublist (declared.filter (·.hasId)) := by
  unfold pins
  induction declared.filter (·.hasId) with
  | nil => exact .slnil
  | cons role rest ih =>
    cases search : observed.find? (·.id == role.id) with
    | none => simpa [search] using ih.cons role
    | some old => simpa [search] using ih

theorem pins_ids_nodup (declares : Declared declared) : ((pins declared observed).map (·.1.id)).Nodup := by
  have once := ((pins_heads_sublist declared observed).map (·.id)).nodup declares.ids
  rwa [List.map_map] at once

theorem pins_names_nodup (declares : Declared declared) : ((pins declared observed).map (·.1.name)).Nodup := by
  have heads := (pins_heads_sublist declared observed).trans List.filter_sublist
  have once := (heads.map (·.name)).nodup declares.names
  rwa [List.map_map] at once

theorem others_nodup (declares : Declared declared) : (others declared observed).Nodup := by
  refine List.nodup_append.mpr
    ⟨(declares.nodup.filter _).filter _, declares.nodup.filter _, fun role found other absent same => ?_⟩
  have denoted := (List.mem_filter.mp (List.mem_filter.mp found).1).2
  have apart := (List.mem_filter.mp absent).2
  simp [same] at denoted
  simp [denoted] at apart

theorem keepers_nodup (declares : Declared declared) : (keepers declared observed).Nodup :=
  (others_nodup declares).filter _

theorem creations_nodup (declares : Declared declared) : (creations declared observed).Nodup :=
  (others_nodup declares).filter _

theorem others_names_nodup (declares : Declared declared) (observes : Observed observed) :
    ((others declared observed).map (·.name)).Nodup :=
  (others_nodup declares).map_on fun _ aMember _ bMember same =>
    declares.same_name ((mem_others observes).mp aMember).1 ((mem_others observes).mp bMember).1 same

theorem pinned_eq (observes : Observed observed) (member : old ∈ observed) (same : old.id = role.id) :
    pinned observed role = .update role old := by
  have reversed : Observed observed.reverse :=
    ⟨fun role member => observes.identified role (List.mem_reverse.mp member),
     by rw [List.map_reverse]; exact List.nodup_reverse.mpr observes.ids,
     by rw [List.map_reverse]; exact List.nodup_reverse.mpr observes.names⟩
  rw [pinned, find_observed reversed (List.mem_reverse.mpr member) same]

theorem updates_eq (observes : Observed observed) :
    updates declared observed = (pins declared observed).map fun pin => .update pin.1 pin.2 := by
  simp only [updates, known, pins, List.filter_filter]
  induction declared with
  | nil => rfl
  | cons role rest ih =>
    cases numbered : role.hasId with
    | false => simpa [List.filter_cons, numbered] using ih
    | true =>
      cases search : observed.find? (·.id == role.id) with
      | none =>
        have apart : anyDenotesSame observed role = false := by
          rw [← Bool.not_eq_true, anyDenotesSame_observed observes]
          intro denoted
          obtain ⟨old, member, same⟩ := denoted
          have absent := List.find?_eq_none.mp search old member
          simp_all
        simpa [List.filter_cons, numbered, apart, search] using ih
      | some old =>
        have member := List.mem_of_find?_eq_some search
        have same : old.id = role.id := by simpa using List.find?_some search
        have denoted : anyDenotesSame observed role = true :=
          (anyDenotesSame_observed observes).mpr ⟨old, member, by simp [numbered, same]⟩
        simpa [List.filter_cons, numbered, denoted, search, pinned_eq observes member same] using ih

-- The names that renames leave are names of pinned roles that are declared anew.
theorem mem_vacated (observes : Observed observed) {name : String} :
    name ∈ vacated declared observed ↔
      ∃ role ∈ declared, ∃ old ∈ observed,
        role.hasId ∧ old.id = role.id ∧ role.name ≠ old.name ∧ old.name = name := by
  simp only [vacated, updates_eq observes, List.mem_filterMap, List.mem_map]
  constructor
  · intro left
    obtain ⟨_, ⟨⟨role, old⟩, pin, rfl⟩, leaves⟩ := left
    obtain ⟨declares, numbered, member, same⟩ := (mem_pins observes).mp pin
    simp only [vacates?] at leaves
    split at leaves
    · cases leaves
    · rename_i renamed
      exact ⟨role, declares, old, member, numbered, same, renamed, Option.some.inj leaves⟩
  · intro renames
    obtain ⟨role, declares, old, member, numbered, same, renamed, rfl⟩ := renames
    exact ⟨_, ⟨(role, old), (mem_pins observes).mpr ⟨declares, numbered, member, same⟩, rfl⟩,
      by simp [vacates?, renamed]⟩

-- A role that is known by its name keeps what it denotes exactly when no rename has left the name.
theorem keeps_of_byName (declares : Declared declared) (observes : Observed observed)
    (found : role ∈ byName declared observed) :
    keeps declared observed role = true ↔ role.name ∉ vacated declared observed := by
  obtain ⟨member, unnumbered, old, oldMember, sameName⟩ := (mem_byName observes).mp found
  rw [keeps_iff, mem_vacated observes]
  constructor
  · intro stays leaves
    obtain ⟨_, kept, keptMember, keptName, unpinned⟩ := stays
    obtain ⟨pin, pinDeclared, left, leftMember, _, same, _, leftName⟩ := leaves
    have one := observes.same_name keptMember leftMember (keptName.trans leftName.symm)
    exact unpinned ⟨pin, pinDeclared, by rw [one, same]⟩
  · intro stays
    refine ⟨unnumbered, old, oldMember, sameName, ?_⟩
    intro pinned
    obtain ⟨pin, pinDeclared, same⟩ := pinned
    have numbered := hasId_of_same_id same (observes.identified old oldMember)
    refine stays ⟨pin, pinDeclared, old, oldMember, numbered, same.symm, ?_, sameName⟩
    intro unrenamed
    have one := declares.same_name pinDeclared member (unrenamed.trans sameName)
    rw [one, unnumbered] at numbered
    cases numbered

theorem keeps_of_missing (observes : Observed observed) (found : role ∈ missing declared observed) :
    keeps declared observed role = false := by
  obtain ⟨_, apart⟩ := (mem_missing observes).mp found
  rw [← Bool.not_eq_true, keeps_iff]
  intro kept
  obtain ⟨unnumbered, old, member, sameName, _⟩ := kept
  have differ := apart old member
  simp [unnumbered, sameName] at differ

end Change
end RealmPlan.Role

namespace RealmPlan.Pass
open Role Role.Change

def keepOrCreate (pass : Pass) (declared observed : List Role) (role : Role) : Action :=
  if keeps declared observed role then pass.updateRole role role else pass.createRole role

-- Under unique names and ids a plan has three parts: what goes, what has an id, and the rest.
theorem rolePlan_eq (pass : Pass) {declared observed : List Role} (declares : Declared declared)
    (observes : Observed observed) :
    pass.rolePlan declared observed =
      (surplus declared observed).map pass.deleteRole ++
        (pins declared observed).map (fun pin => pass.updateRole pin.1 pin.2) ++
        (others declared observed).map (pass.keepOrCreate declared observed) := by
  have named : (byName declared observed).map (pass.roleAction ∘ named (vacated declared observed)) =
      (byName declared observed).map (pass.keepOrCreate declared observed) := by
    apply List.map_congr_left
    intro role found
    have kept := keeps_of_byName declares observes found
    by_cases left : role.name ∈ vacated declared observed
    · simp [keepOrCreate, roleAction, Role.Change.named, left, show keeps declared observed role = false by simpa [left] using kept]
    · simp [keepOrCreate, roleAction, Role.Change.named, left, kept.mpr left]
  have created : (missing declared observed).map (pass.roleAction ∘ .create) =
      (missing declared observed).map (pass.keepOrCreate declared observed) := by
    apply List.map_congr_left
    intro role found
    simp [keepOrCreate, roleAction, keeps_of_missing observes found]
  simp only [rolePlan, all_eq, updates_eq observes, others, List.map_append, List.map_map, named, created,
    List.append_assoc]
  rfl

-- What keeps its role and what is created may as well be looked at apart.
theorem others_perm (pass : Pass) (declared observed : List Role) :
    ((others declared observed).map (pass.keepOrCreate declared observed)).Perm
      ((keepers declared observed).map (fun role => pass.updateRole role role) ++
        (creations declared observed).map pass.createRole) := by
  refine ((List.filter_append_perm (keeps declared observed) _).symm.map _).trans (.of_eq ?_)
  rw [List.map_append]
  congr 1
  · exact List.map_congr_left fun role found => by simp [keepOrCreate, (List.mem_filter.mp found).2]
  · apply List.map_congr_left
    intro role found
    have created : keeps declared observed role = false := by simpa using (List.mem_filter.mp found).2
    simp [keepOrCreate, created]

end RealmPlan.Pass
