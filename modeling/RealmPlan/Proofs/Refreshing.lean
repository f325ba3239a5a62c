import RealmPlan.Planning
import RealmPlan.Proofs.Tables

namespace RealmPlan

-- What workloads read under a key. A secret without data has nothing under any.
def Secret.value? (secret : Secret) (key : String) : Option (List UInt8) := secret.data.bind (·.get? key)

namespace Credentials
variable (resource twin : Resource) (observed : Secret) {key : String}

-- The keys of the credentials are the same for every resource.
theorem mem_entries_key : (∃ entry ∈ entries resource, entry.1 = key) ↔ key = idKey ∨ key = secretKey := by
  simp [entries, eq_comm]

theorem value?_fresh_id : (fresh resource).value? idKey = some (utf8 resource.clientId) := by
  have different : idKey ≠ secretKey := by decide
  simp [Secret.value?, fresh, entries, Dict.ofList, Dict.get?_insert, different]

theorem value?_fresh_secret :
    (fresh resource).value? secretKey = some (utf8 (resource.spec.client.secret.getD "")) := by
  simp [Secret.value?, fresh, entries, Dict.ofList, Dict.get?_insert]

theorem value?_refresh_of_credential (own : key = idKey ∨ key = secretKey) :
    (refresh resource observed).value? key = (fresh resource).value? key :=
  Dict.get?_extend_of_present _ _ ((mem_entries_key resource).mpr own)

theorem value?_refresh_of_other (notId : key ≠ idKey) (notSecret : key ≠ secretKey) :
    (refresh resource observed).value? key = observed.value? key := by
  have absent : ∀ entry ∈ entries resource, entry.1 ≠ key := by
    intro entry member same
    rcases (mem_entries_key resource).mp ⟨entry, member, same⟩ with id | secret
    · exact notId id
    · exact notSecret secret
  refine (Dict.get?_extend_of_absent _ absent).trans ?_
  cases data : observed.data with
  | none => simp [Secret.value?, data, Dict.get?_empty]
  | some table => simp [Secret.value?, data]

-- Only the two credentials are written, and neither is ever taken away.
theorem value?_refresh_isSome (held : (observed.value? key).isSome) :
    ((refresh resource observed).value? key).isSome := by
  by_cases id : key = idKey
  · rw [value?_refresh_of_credential resource observed (.inl id), id, value?_fresh_id]
    rfl
  · by_cases secret : key = secretKey
    · rw [value?_refresh_of_credential resource observed (.inr secret), secret, value?_fresh_secret]
      rfl
    · rwa [value?_refresh_of_other resource observed id secret]

theorem entries_covered : ∀ entry ∈ entries resource, ∃ other ∈ entries twin, other.1 = entry.1 := by
  intro entry member
  exact (mem_entries_key twin).mpr ((mem_entries_key resource).mp ⟨entry, member, rfl⟩)

theorem refresh_refresh : refresh twin (refresh resource observed) = refresh twin observed := by
  have data := Dict.extend_extend (observed.data.getD .empty) (entries_covered resource twin)
  simp only [refresh, Option.getD_some, data]

-- Creation and refreshing build their data apart; they agree because the fresh table holds nothing else.
theorem refresh_fresh : refresh resource (fresh resource) = fresh resource := by
  have data := Dict.extend_extend .empty (entries_covered resource resource)
  simp only [refresh, fresh, Option.getD_some, Dict.ofList, data]

end Credentials

def Operation.secret? : Operation → Option Secret
  | createSecret secret | updateSecret secret => some secret
  | _ => none

-- However a pass comes by its secret, the next pass writes that secret as it is.
theorem Pass.secretAction_again (pass : Pass) (observation : Observation) {written : Secret}
    (writes : (pass.secretAction observation).operation.secret? = some written) :
    pass.secretAction { observation with clientSecret := some written } = pass.updateSecret written := by
  have stays : Credentials.refresh pass.resource written = written := by
    cases found : observation.clientSecret with
    | none =>
      simp only [secretAction, found] at writes
      cases Option.some.inj writes
      exact Credentials.refresh_fresh pass.resource
    | some observed =>
      simp only [secretAction, found] at writes
      cases Option.some.inj writes
      exact Credentials.refresh_refresh pass.resource pass.resource observed
  simp only [secretAction, stays]

namespace Credentials

-- Refreshing writes the two credentials and leaves everything else of a secret alone, whether it has data or not.
-- What an earlier refreshing wrote does not show, and the secret that was created in one pass is still the one that
-- the next pass writes.
theorem refresh_changes_credentials_only (resource : Resource) (observed : Secret) :
    ((refresh resource observed).metadata = observed.metadata ∧
      (refresh resource observed).type = observed.type ∧
      (refresh resource observed).immutable = observed.immutable ∧
      (refresh resource observed).stringData = observed.stringData) ∧
    (∀ key, key ≠ idKey → key ≠ secretKey → (refresh resource observed).value? key = observed.value? key) ∧
    (∀ key, (observed.value? key).isSome → ((refresh resource observed).value? key).isSome) ∧
    ((refresh resource observed).value? idKey = (fresh resource).value? idKey ∧
      (fresh resource).value? idKey = some (utf8 resource.clientId)) ∧
    ((refresh resource observed).value? secretKey = (fresh resource).value? secretKey ∧
      (fresh resource).value? secretKey = some (utf8 (resource.spec.client.secret.getD ""))) ∧
    (∀ twin, refresh twin (refresh resource observed) = refresh twin observed) ∧
    refresh resource (fresh resource) = fresh resource ∧
    ∀ observation written, ((Pass.of observation resource).secretAction observation).operation.secret? = some written →
      (Pass.of observation resource).secretAction { observation with clientSecret := some written } =
        (Pass.of observation resource).updateSecret written := by
  refine ⟨⟨rfl, rfl, rfl, rfl⟩, ?_, ?_, ⟨?_, value?_fresh_id resource⟩, ⟨?_, value?_fresh_secret resource⟩, ?_,
    refresh_fresh resource, ?_⟩
  · exact fun key => value?_refresh_of_other resource observed
  · exact fun key => value?_refresh_isSome resource observed
  · exact value?_refresh_of_credential resource observed (.inl rfl)
  · exact value?_refresh_of_credential resource observed (.inr rfl)
  · exact fun twin => refresh_refresh resource twin observed
  · exact fun observation written => (Pass.of observation resource).secretAction_again observation

-- A key of the cluster's own stays, an outdated credential goes, and the version stays with the secret. Where there is
-- none yet, the one that is created is what the next pass writes.
theorem refresh_changes_credentials_only_extra_key :
    let resource : Resource :=
      { metadata := {}, spec := { realm := "main", client := { clientId := "app", secret := some "new" } } }
    let observed : Secret :=
      { metadata := { resourceVersion := some "42" }
        data := some (.ofList [("EXTRA", [107]), (secretKey, utf8 "old")]) }
    let pass := Pass.of {} resource
    ((refresh resource observed).metadata.resourceVersion = some "42" ∧
      (refresh resource observed).value? "EXTRA" = some [107] ∧
      ((refresh resource observed).value? secretKey).isSome ∧
      (refresh resource observed).value? secretKey = some (utf8 "new")) ∧
    (pass.secretAction {}).operation.secret? = some (fresh resource) ∧
      pass.secretAction { clientSecret := some (fresh resource) } = pass.updateSecret (fresh resource) := by
  intro resource observed pass
  obtain ⟨⟨metadata, _⟩, other, kept, _, ⟨secret, written⟩, _, _, again⟩ :=
    refresh_changes_credentials_only resource observed
  have extra : (refresh resource observed).value? "EXTRA" = some [107] := by
    rw [other "EXTRA" (by decide) (by decide)]
    rfl
  have held : (observed.value? secretKey).isSome := rfl
  have created : (pass.secretAction {}).operation.secret? = some (fresh resource) := rfl
  exact ⟨⟨by rw [metadata], extra, kept secretKey held, secret.trans written⟩, created, again {} _ created⟩

end Credentials
end RealmPlan
