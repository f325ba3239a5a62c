import RealmPlan.Proofs.Classification

namespace RealmPlan.Role

-- Who has found a partner, and who is left over on either side.
structure Pairing where
  pairs : List (Role × Role)
  alone : List Role
  free : List Role
deriving DecidableEq

namespace Pairing

-- One role after the other takes the first fitting partner that is still free.
def of (fits : Role → Role → Bool) : List Role → List Role → Pairing
  | [], pool => ⟨[], [], pool⟩
  | role :: rest, pool =>
    match pool.find? (fits role) with
    | some partner =>
      let later := of fits rest (pool.erase partner)
      { later with pairs := (role, partner) :: later.pairs }
    | none =>
      let later := of fits rest pool
      { later with alone := role :: later.alone }

variable {fits : Role → Role → Bool} {roles pool : List Role} {role partner : Role}

theorem seekers_perm (fits : Role → Role → Bool) (roles pool : List Role) :
    ((of fits roles pool).pairs.map Prod.fst ++ (of fits roles pool).alone).Perm roles := by
  induction roles generalizing pool with
  | nil => exact .nil
  | cons role rest ih =>
    unfold of
    split
    · exact (ih _).cons role
    · exact List.perm_middle.trans ((ih pool).cons role)

theorem partners_perm (fits : Role → Role → Bool) (roles pool : List Role) :
    ((of fits roles pool).pairs.map Prod.snd ++ (of fits roles pool).free).Perm pool := by
  induction roles generalizing pool with
  | nil => exact .refl _
  | cons role rest ih =>
    unfold of
    split
    · rename_i partner search
      exact ((ih _).cons partner).trans (List.perm_cons_erase (List.mem_of_find?_eq_some search)).symm
    · exact ih pool

theorem fits_of_mem (pair : (role, partner) ∈ (of fits roles pool).pairs) : fits role partner := by
  induction roles generalizing pool with
  | nil => cases pair
  | cons head rest ih =>
    unfold of at pair
    split at pair
    · rename_i found search
      rcases List.mem_cons.mp pair with first | later
      · cases first
        exact List.find?_some search
      · exact ih later
    · exact ih pair

theorem free_subset : (of fits roles pool).free ⊆ pool := fun _ free =>
  (partners_perm fits roles pool).subset (List.mem_append_right _ free)

-- Who is alone has looked through all that are free at the end.
theorem apart_of_alone (alone : role ∈ (of fits roles pool).alone)
    (free : partner ∈ (of fits roles pool).free) : fits role partner = false := by
  induction roles generalizing pool with
  | nil => cases alone
  | cons head rest ih =>
    unfold of at alone free
    split at alone
    · rename_i found search
      simp only [search] at free
      exact ih alone free
    · rename_i search
      simp only [search] at free
      rcases List.mem_cons.mp alone with rfl | later
      · simpa using List.find?_eq_none.mp search partner (free_subset free)
      · exact ih later free

-- Nobody fits two of the other side, so the order of the turns does not matter.
structure Exclusive (fits : Role → Role → Bool) (roles pool : List Role) : Prop where
  seekers : roles.Nodup
  partners : pool.Nodup
  one_partner : ∀ role ∈ roles, ∀ a ∈ pool, ∀ b ∈ pool, fits role a → fits role b → a = b
  one_seeker : ∀ a ∈ roles, ∀ b ∈ roles, ∀ partner ∈ pool, fits a partner → fits b partner → a = b

theorem mem_pairs (exclusive : Exclusive fits roles pool) :
    (role, partner) ∈ (of fits roles pool).pairs ↔ role ∈ roles ∧ partner ∈ pool ∧ fits role partner := by
  have seekers := seekers_perm fits roles pool
  have partners := partners_perm fits roles pool
  constructor
  · intro pair
    exact ⟨seekers.subset (List.mem_append_left _ (List.mem_map_of_mem pair)),
      partners.subset (List.mem_append_left _ (List.mem_map_of_mem pair)), fits_of_mem pair⟩
  · intro fitting
    obtain ⟨seeks, offered, fit⟩ := fitting
    rcases List.mem_append.mp (seekers.mem_iff.mpr seeks) with paired | alone
    · obtain ⟨⟨_, other⟩, pair, rfl⟩ := List.mem_map.mp paired
      have otherOffered := partners.subset (List.mem_append_left _ (List.mem_map_of_mem pair))
      rwa [exclusive.one_partner _ seeks partner offered other otherOffered fit (fits_of_mem pair)]
    · exfalso
      rcases List.mem_append.mp (partners.mem_iff.mpr offered) with taken | free
      · obtain ⟨⟨taker, _⟩, pair, rfl⟩ := List.mem_map.mp taken
        have takerSeeks := seekers.subset (List.mem_append_left _ (List.mem_map_of_mem pair))
        have same := exclusive.one_seeker taker takerSeeks role seeks _ offered (fits_of_mem pair) fit
        subst same
        have once := List.nodup_append.mp (seekers.nodup_iff.mpr exclusive.seekers)
        exact once.2.2 taker (List.mem_map_of_mem pair) taker alone rfl
      · rw [apart_of_alone alone free] at fit
        cases fit

theorem mem_free (exclusive : Exclusive fits roles pool) :
    partner ∈ (of fits roles pool).free ↔ partner ∈ pool ∧ ∀ role ∈ roles, fits role partner = false := by
  have partners := partners_perm fits roles pool
  have once := List.nodup_append.mp (partners.nodup_iff.mpr exclusive.partners)
  constructor
  · intro free
    have offered := free_subset free
    refine ⟨offered, fun role seeks => ?_⟩
    rw [← Bool.not_eq_true]
    intro fit
    have pair := (mem_pairs exclusive).mpr ⟨seeks, offered, fit⟩
    exact once.2.2 partner (List.mem_map_of_mem pair) partner free rfl
  · intro unwanted
    obtain ⟨offered, apart⟩ := unwanted
    rcases List.mem_append.mp (partners.mem_iff.mpr offered) with taken | free
    · obtain ⟨⟨taker, _⟩, pair, rfl⟩ := List.mem_map.mp taken
      obtain ⟨seeks, _, fit⟩ := (mem_pairs exclusive).mp pair
      rw [apart taker seeks] at fit
      cases fit
    · exact free

theorem mem_alone (exclusive : Exclusive fits roles pool) :
    role ∈ (of fits roles pool).alone ↔ role ∈ roles ∧ ∀ partner ∈ pool, fits role partner = false := by
  have seekers := seekers_perm fits roles pool
  have once := List.nodup_append.mp (seekers.nodup_iff.mpr exclusive.seekers)
  constructor
  · intro alone
    have seeks := seekers.subset (List.mem_append_right _ alone)
    refine ⟨seeks, fun partner offered => ?_⟩
    rw [← Bool.not_eq_true]
    intro fit
    have pair := (mem_pairs exclusive).mpr ⟨seeks, offered, fit⟩
    exact once.2.2 role (List.mem_map_of_mem pair) role alone rfl
  · intro unserved
    obtain ⟨seeks, apart⟩ := unserved
    rcases List.mem_append.mp (seekers.mem_iff.mpr seeks) with paired | alone
    · obtain ⟨⟨_, partner⟩, pair, rfl⟩ := List.mem_map.mp paired
      obtain ⟨_, offered, fit⟩ := (mem_pairs exclusive).mp pair
      rw [apart partner offered] at fit
      cases fit
    · exact alone

end Pairing
end RealmPlan.Role
