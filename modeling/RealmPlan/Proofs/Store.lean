import RealmPlan.Proofs.Attempts
import RealmPlan.Proofs.Uniqueness

namespace RealmPlan

-- The roles that a realm keeps for a client, and how many of them it has made.
structure Store where
  roles : List Role
  made : Nat := 0

def Store.ids (store : Store) : List String := store.roles.map (·.id)
def Store.holds (store : Store) (name : String) : Bool := store.roles.any (·.name == name)

theorem Store.holds_iff {store : Store} {name : String} :
    store.holds name = true ↔ name ∈ store.roles.map (·.name) := by
  simp [holds]

-- How a realm names what it makes. Nothing is assumed of its choices but that they are new: no
-- kept role has the id, and none of the reserved ids is given away.
structure Issuer (reserved : List String) where
  issue : Store → String
  unused : ∀ store : Store, issue store ∉ store.ids
  unreserved : ∀ store, issue store ∉ reserved

namespace Issuer

def beyond (used : List String) : String :=
  String.ofList (List.replicate ((used.map String.length).max?.getD 0 + 1) 'x')

theorem beyond_not_mem (used : List String) : beyond used ∉ used := by
  intro member
  have length : (beyond used).length = (used.map String.length).max?.getD 0 + 1 := by
    rw [beyond, String.length_ofList, List.length_replicate]
  have bounded : (beyond used).length ≤ (used.map String.length).max?.getD 0 :=
    List.le_max?_getD_of_mem (List.mem_map_of_mem member)
  omega

-- There always is a longer id.
def longer (reserved : List String) : Issuer reserved where
  issue store := beyond (store.ids ++ reserved)
  unused _ member := beyond_not_mem _ (List.mem_append_left _ member)
  unreserved _ member := beyond_not_mem _ (List.mem_append_right _ member)

instance (reserved : List String) : Inhabited (Issuer reserved) := ⟨longer reserved⟩

end Issuer

variable {reserved : List String}

def Store.make (store : Store) (issuer : Issuer reserved) (role : Role) : Store :=
  ⟨store.roles ++ [role.under (issuer.issue store)], store.made + 1⟩

theorem Store.names_make (store : Store) (issuer : Issuer reserved) (role : Role) :
    (store.make issuer role).roles.map (·.name) = store.roles.map (·.name) ++ [role.name] := by
  simp [Store.make]

theorem Store.mem_names_make {store : Store} {issuer : Issuer reserved} {role : Role} {name : String} :
    name ∈ (store.make issuer role).roles.map (·.name) ↔ name ∈ store.roles.map (·.name) ∨ name = role.name := by
  rw [names_make, List.mem_append, List.mem_singleton]

theorem Store.names_make_nodup {store : Store} {role : Role} (issuer : Issuer reserved)
    (names : (store.roles.map (·.name)).Nodup) (free : role.name ∉ store.roles.map (·.name)) :
    ((store.make issuer role).roles.map (·.name)).Nodup := by
  rw [names_make]
  refine List.nodup_append.mpr ⟨names, List.nodup_singleton _, fun name member other last same => free ?_⟩
  rwa [← List.mem_singleton.mp last, ← same]

-- What a realm does with a call. A call that it refuses changes nothing.
abbrev Keeper := Store → Operation → Option Store

namespace Keeper

-- A realm that knows its roles by their ids, and by their names where a call has no id. It
-- refuses to delete or to update unless there is exactly one role to act on.
def byId (issuer : Issuer reserved) : Keeper
  | store, .deleteRole role _ _ =>
    if store.roles.countP (·.id == role.id) = 1 then
      some { store with roles := store.roles.filter (·.id != role.id) }
    else none
  | store, .updateRole role old _ _ =>
    if store.roles.countP old.denotes = 1 then
      some { store with roles := store.roles.map fun kept => if old.denotes kept then role.under kept.id else kept }
    else none
  | store, .createRole role _ _ => some (store.make issuer role)
  | store, _ => some store

-- A realm that knows its roles by their names, and keeps them apart.
def byName (issuer : Issuer reserved) : Keeper
  | store, .deleteRole role _ _ =>
    if store.holds role.name then some { store with roles := store.roles.filter (·.name != role.name) }
    else none
  | store, .updateRole role old _ _ =>
    if store.holds old.name && (role.name == old.name || !store.holds role.name) then
      some { store with roles := store.roles.map fun kept => if kept.name = old.name then role.under kept.id else kept }
    else none
  | store, .createRole role _ _ => if store.holds role.name then none else some (store.make issuer role)
  | store, _ => some store

-- All calls in their order, none of them refused.
def applyAll (keeper : Keeper) (store : Store) (operations : List Operation) : Option Store :=
  operations.foldlM keeper store

-- What is kept behind some calls, refused ones among them.
def after (keeper : Keeper) (store : Store) (operations : List Operation) : Store :=
  operations.foldl (fun store operation => (keeper store operation).getD store) store

def transport (keeper : Keeper) (store : Store) : Transport := fun earlier operation =>
  match keeper (keeper.after store earlier) operation with
  | some _ => .ok ()
  | none => .error ⟨["the realm refuses the call"]⟩

-- One pass: the roles are planned against what is kept, and the plan is executed.
def pass (keeper : Keeper) (pass : Pass) (abortOnUnavailable : Bool) (declared : List Role)
    (store : Store) : Store :=
  keeper.after store
    (Execution.run (keeper.transport store) abortOnUnavailable (pass.rolePlan declared store.roles)).calls

variable {keeper : Keeper}

theorem pass_eq (keeper : Keeper) (pass : Pass) (abortOnUnavailable : Bool) (declared : List Role)
    (store : Store) :
    keeper.pass pass abortOnUnavailable declared store =
      keeper.after store ((pass.rolePlan declared store.roles).map (·.operation)) := by
  rw [Keeper.pass, Execution.run_calls_of_mutating _ (pass.rolePlan_mutating _ _)]

theorem applyAll_append (keeper : Keeper) (store : Store) (first second : List Operation) :
    keeper.applyAll store (first ++ second) =
      (keeper.applyAll store first).bind fun middle => keeper.applyAll middle second :=
  List.foldlM_append

theorem applyAll_cons (keeper : Keeper) (store : Store) (operation : Operation) (rest : List Operation) :
    keeper.applyAll store (operation :: rest) =
      (keeper store operation).bind fun next => keeper.applyAll next rest :=
  List.foldlM_cons

theorem after_append (keeper : Keeper) (store : Store) (first second : List Operation) :
    keeper.after store (first ++ second) = keeper.after (keeper.after store first) second :=
  List.foldl_append

theorem after_cons (keeper : Keeper) (store : Store) (operation : Operation) (rest : List Operation) :
    keeper.after store (operation :: rest) = keeper.after ((keeper store operation).getD store) rest :=
  List.foldl_cons ..

theorem after_of_applyAll {store final : Store} {operations : List Operation}
    (applied : keeper.applyAll store operations = some final) : keeper.after store operations = final := by
  induction operations generalizing store with
  | nil => exact Option.some.inj applied
  | cons operation rest ih =>
    rw [applyAll_cons] at applied
    obtain ⟨next, accepted, applied⟩ := Option.bind_eq_some_iff.mp applied
    rw [after_cons, accepted]
    exact ih applied

end Keeper

-- Ids stay as they are, roles that stay keep theirs, and a new role has a new one.
structure Store.Precedes (reserved : List String) (before after : Store) : Prop where
  distinct : before.ids.Nodup → after.ids.Nodup
  origin : ∀ id ∈ after.ids, id ∈ before.ids ∨ id ∉ reserved

namespace Store.Precedes
variable {before middle after : Store}

theorem refl (store : Store) : Precedes reserved store store := ⟨id, fun _ => .inl⟩

theorem trans (first : Precedes reserved before middle) (second : Precedes reserved middle after) :
    Precedes reserved before after where
  distinct := second.distinct ∘ first.distinct
  origin id member := (second.origin id member).elim (first.origin id) .inr

theorem of_same_ids (same : after.ids = before.ids) : Precedes reserved before after :=
  ⟨fun distinct => same ▸ distinct, fun _ member => .inl (same ▸ member)⟩

theorem of_ids_sublist (sub : after.ids.Sublist before.ids) : Precedes reserved before after :=
  ⟨sub.nodup, fun _ member => .inl (sub.subset member)⟩

theorem make (issuer : Issuer reserved) (store : Store) (role : Role) :
    Precedes reserved store (store.make issuer role) := by
  have ids : (store.make issuer role).ids = store.ids ++ [issuer.issue store] := by
    simp [Store.make, Store.ids]
  constructor
  · intro distinct
    rw [ids]
    refine List.nodup_append.mpr ⟨distinct, by simp, fun id member other last same => ?_⟩
    rw [List.mem_singleton.mp last] at same
    exact issuer.unused store (same ▸ member)
  · intro id member
    rw [ids, List.mem_append, List.mem_singleton] at member
    exact member.imp_right fun (same : id = _) => same ▸ issuer.unreserved store

end Store.Precedes

namespace Keeper
variable {issuer : Issuer reserved} {store next : Store} {operation : Operation}

theorem ids_of_map {change : Role → Role} (keepsId : ∀ role, (change role).id = role.id) (store : Store) :
    ({ store with roles := store.roles.map change } : Store).ids = store.ids := by
  simp [Store.ids, keepsId]

theorem byId_precedes (accepted : byId issuer store operation = some next) :
    Store.Precedes reserved store next := by
  cases operation with
  | deleteRole role =>
    simp only [byId, Option.ite_none_right_eq_some, Option.some.injEq] at accepted
    rw [← accepted.2]
    exact .of_ids_sublist (List.filter_sublist.map _)
  | updateRole role old =>
    simp only [byId, Option.ite_none_right_eq_some, Option.some.injEq] at accepted
    rw [← accepted.2]
    exact .of_same_ids (ids_of_map (fun kept => by split <;> rfl) store)
  | createRole role => cases accepted; exact .make issuer store role
  | _ => cases accepted; exact .refl store

theorem byName_precedes (accepted : byName issuer store operation = some next) :
    Store.Precedes reserved store next := by
  cases operation with
  | deleteRole role =>
    simp only [byName, Option.ite_none_right_eq_some, Option.some.injEq] at accepted
    rw [← accepted.2]
    exact .of_ids_sublist (List.filter_sublist.map _)
  | updateRole role old =>
    simp only [byName, Option.ite_none_right_eq_some, Option.some.injEq] at accepted
    rw [← accepted.2]
    exact .of_same_ids (ids_of_map (fun kept => by split <;> rfl) store)
  | createRole role =>
    simp only [byName, Option.ite_none_left_eq_some, Option.some.injEq] at accepted
    rw [← accepted.2]
    exact .make issuer store role
  | _ => cases accepted; exact .refl store

-- What every accepted call keeps, all calls keep, the refused ones among them.
theorem after_invariant {keeper : Keeper} {valid : Store → Prop}
    (step : ∀ {store operation next}, valid store → keeper store operation = some next → valid next)
    {store : Store} (start : valid store) (operations : List Operation) : valid (keeper.after store operations) := by
  induction operations generalizing store with
  | nil => exact start
  | cons operation rest ih =>
    rw [after_cons]
    apply ih
    cases answer : keeper store operation with
    | none => exact start
    | some next => exact step start answer

theorem after_precedes {keeper : Keeper}
    (step : ∀ {store operation next}, keeper store operation = some next → Store.Precedes reserved store next)
    (store : Store) (operations : List Operation) :
    Store.Precedes reserved store (keeper.after store operations) :=
  after_invariant (fun sofar accepted => sofar.trans (step accepted)) (.refl store) operations

-- Two roles never come to share a name.
theorem byName_names (names : (store.roles.map (·.name)).Nodup)
    (accepted : byName issuer store operation = some next) : (next.roles.map (·.name)).Nodup := by
  cases operation with
  | deleteRole role =>
    simp only [byName, Option.ite_none_right_eq_some, Option.some.injEq] at accepted
    rw [← accepted.2]
    exact (List.filter_sublist.map _).nodup names
  | updateRole role old =>
    simp only [byName, Option.ite_none_right_eq_some, Option.some.injEq, Bool.and_eq_true, Bool.or_eq_true,
      beq_iff_eq, Bool.not_eq_true', ← Bool.not_eq_true, Store.holds_iff] at accepted
    obtain ⟨⟨_, free⟩, rfl⟩ := accepted
    rw [List.map_map]
    apply (List.Nodup.of_map _ names).map_on
    intro a aMember b bMember same
    have once := List.inj_on_of_nodup_map names aMember bMember
    have apart : ∀ kept ∈ store.roles, role.name = kept.name → kept.name = old.name := by
      intro kept member taken
      rcases free with unrenamed | free
      · rw [← taken, unrenamed]
      · exact absurd (List.mem_map.mpr ⟨kept, member, taken.symm⟩) free
    simp only [Function.comp_apply] at same
    split at same <;> split at same
    · rename_i fromA fromB
      exact once (fromA.trans fromB.symm)
    · rename_i fromA other
      exact absurd (apart b bMember same) other
    · rename_i other fromB
      exact absurd (apart a aMember same.symm) other
    · exact once same
  | createRole role =>
    simp only [byName, Option.ite_none_left_eq_some, Option.some.injEq] at accepted
    obtain ⟨free, rfl⟩ := accepted
    exact Store.names_make_nodup issuer names (mt Store.holds_iff.mpr free)
  | _ => cases accepted; exact names

end Keeper
end RealmPlan
