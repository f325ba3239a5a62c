import RealmPlan.Command
import RealmPlan.Proofs.Order

namespace RealmPlan
namespace Role

-- A role as far as planning looks at it. What it carries besides is passed on and never read.
def face (role : Role) : Role := withId role.id role.name

@[simp] theorem face_id (role : Role) : role.face.id = role.id := rfl
@[simp] theorem face_name (role : Role) : role.face.name = role.name := rfl
@[simp] theorem face_hasId (role : Role) : role.face.hasId = role.hasId := rfl
@[simp] theorem face_denotesSame (a b : Role) : a.face.denotesSame b.face = a.denotesSame b := rfl

theorem faces_eq {roles others : List Role}
    (same : (roles.map fun role => (role.id, role.name)) = others.map fun role => (role.id, role.name)) :
    roles.map face = others.map face := by
  have rebuilt := congrArg (List.map fun known => withId known.1 known.2) same
  rwa [List.map_map, List.map_map] at rebuilt

theorem anyDenotesSame_faces (others : List Role) (role : Role) :
    anyDenotesSame (others.map face) role.face = anyDenotesSame others role := by
  simp [anyDenotesSame, Function.comp_def]

theorem filter_faces (keep : Role → Bool) {keepFace : Role → Bool} (same : ∀ role, keepFace role.face = keep role)
    (roles : List Role) : (roles.map face).filter keepFace = (roles.filter keep).map face := by
  rw [List.filter_map]
  exact congrArg _ (List.filter_congr fun role _ => same role)

namespace Change

def face : Change → Change
  | remove old => remove old.face
  | update role old => update role.face old.face
  | adopt role => adopt role.face
  | refresh role => refresh role.face
  | recreate role => recreate role.face
  | create role => create role.face

theorem pinned_faces (observed : List Role) (role : Role) :
    pinned (observed.map Role.face) role.face = (pinned observed role).face := by
  unfold pinned
  rw [← List.map_reverse, List.find?_map]
  cases search : observed.reverse.find? ((fun old => old.id == role.face.id) ∘ Role.face) with
  | none =>
    have same : (observed.reverse.find? fun old => old.id == role.id) = none := search
    rw [same]
    rfl
  | some old =>
    have same : (observed.reverse.find? fun old => old.id == role.id) = some old := search
    rw [same]
    rfl

theorem vacates?_face (change : Change) : change.face.vacates? = change.vacates? := by
  cases change <;> rfl

theorem named_face (vacated : List String) (role : Role) :
    named vacated role.face = (named vacated role).face := by
  unfold named
  rw [face_name]
  split <;> rfl

theorem surplus_faces (declared observed : List Role) :
    surplus (declared.map Role.face) (observed.map Role.face) = (surplus declared observed).map Role.face :=
  filter_faces (fun old => !anyDenotesSame declared old)
    (fun old => congrArg (! ·) (anyDenotesSame_faces declared old)) observed

theorem known_faces (declared observed : List Role) :
    known (declared.map Role.face) (observed.map Role.face) = (known declared observed).map Role.face :=
  filter_faces (anyDenotesSame observed) (anyDenotesSame_faces observed) declared

theorem missing_faces (declared observed : List Role) :
    missing (declared.map Role.face) (observed.map Role.face) = (missing declared observed).map Role.face :=
  filter_faces (fun role => !anyDenotesSame observed role)
    (fun role => congrArg (! ·) (anyDenotesSame_faces observed role)) declared

theorem updates_faces (declared observed : List Role) :
    updates (declared.map Role.face) (observed.map Role.face) = (updates declared observed).map face := by
  simp only [updates, known_faces, filter_faces (·.hasId) face_hasId, List.map_map]
  exact List.map_congr_left fun role _ => pinned_faces observed role

theorem vacated_faces (declared observed : List Role) :
    vacated (declared.map Role.face) (observed.map Role.face) = vacated declared observed := by
  simp only [vacated, updates_faces, List.filterMap_map]
  exact List.filterMap_congr fun change _ => vacates?_face change

-- What becomes of the roles is decided on their faces alone.
theorem all_faces (declared observed : List Role) :
    all (declared.map Role.face) (observed.map Role.face) = (all declared observed).map face := by
  have unnumbered : byName (declared.map Role.face) (observed.map Role.face) =
      (byName declared observed).map Role.face := by
    simp only [byName, known_faces]
    exact filter_faces (fun role => !role.hasId) (fun role => congrArg (! ·) (face_hasId role)) _
  have named : (byName declared observed).map (named (vacated declared observed) ∘ Role.face) =
      (byName declared observed).map (face ∘ named (vacated declared observed)) :=
    List.map_congr_left fun role _ => named_face _ role
  simp only [all_eq, surplus_faces, updates_faces, vacated_faces, unnumbered, missing_faces, List.map_append,
    List.map_map, named]
  rfl

end Change
end Role

-- The realm and the client that a call names, if it names any.
def Operation.realm? : Operation → Option String
  | createClient _ realm | updateClient _ realm | deleteClient _ realm => some realm
  | createRole _ _ realm | updateRole _ _ _ realm | deleteRole _ _ realm => some realm
  | ping | createSecret _ | updateSecret _ => none

def Operation.clientId? : Operation → Option String
  | createClient client _ | updateClient client _ | deleteClient client _ => some client.clientId
  | createRole _ clientId _ | updateRole _ _ clientId _ | deleteRole _ clientId _ => some clientId
  | ping | createSecret _ | updateSecret _ => none

-- All of an action that is ever shown, and where its call goes.
structure Action.View where
  kind : Operation.Kind
  target : String
  message : String
  rename : Bool
  realm? : Option String
  clientId? : Option String

def Action.view (action : Action) : Action.View where
  kind := action.kind
  target := action.target
  message := action.message
  rename := action.isRename
  realm? := action.operation.realm?
  clientId? := action.operation.clientId?

namespace Pass

-- Two passes that name the same client in the same realm.
structure Akin (pass other : Pass) : Prop where
  displayName : pass.displayName = other.displayName
  clientId : pass.clientId = other.clientId
  realm : pass.realm = other.realm

section Views

variable (pass : Pass) (secret : Secret) (role old : Role)

@[simp] theorem view_createClient : pass.createClient.view =
    ⟨.createClient, pass.clientId, "create client " ++ pass.displayName, false, some pass.realm, some pass.clientId⟩ :=
  rfl

@[simp] theorem view_updateClient : pass.updateClient.view =
    ⟨.updateClient, pass.clientId, "update client " ++ pass.displayName, false, some pass.realm, some pass.clientId⟩ :=
  rfl

@[simp] theorem view_deleteClient : pass.deleteClient.view =
    ⟨.deleteClient, pass.clientId, "removing client " ++ pass.displayName, false, some pass.realm,
      some pass.clientId⟩ :=
  rfl

@[simp] theorem view_createSecret : (pass.createSecret secret).view =
    ⟨.createSecret, secret.metadata.name.getD "", "create client secret " ++ pass.displayName, false, none, none⟩ :=
  rfl

@[simp] theorem view_updateSecret : (pass.updateSecret secret).view =
    ⟨.updateSecret, secret.metadata.name.getD "", "update client secret " ++ pass.displayName, false, none, none⟩ :=
  rfl

@[simp] theorem view_createRole : (pass.createRole role).view =
    ⟨.createRole, role.name, "create client role " ++ pass.displayName ++ "/" ++ role.name, false, some pass.realm,
      some pass.clientId⟩ :=
  rfl

@[simp] theorem view_updateRole : (pass.updateRole role old).view =
    ⟨.updateRole, role.name, "update client role " ++ pass.displayName ++ "/" ++ old.name, role.name != old.name,
      some pass.realm, some pass.clientId⟩ :=
  rfl

@[simp] theorem view_deleteRole : (pass.deleteRole role).view =
    ⟨.deleteRole, role.name, "delete client role " ++ pass.displayName ++ "/" ++ role.name, false, some pass.realm,
      some pass.clientId⟩ :=
  rfl

end Views

variable {pass other : Pass}

theorem view_roleAction (akin : Akin pass other) (change : Role.Change) :
    (pass.roleAction change).view = (other.roleAction change.face).view := by
  obtain ⟨displayName, clientId, realm⟩ := akin
  cases change <;> simp [roleAction, Role.Change.face, displayName, clientId, realm]

theorem view_rolePlan (akin : Akin pass other) (declared observed : List Role) :
    (pass.rolePlan declared observed).map Action.view =
      (other.rolePlan (declared.map Role.face) (observed.map Role.face)).map Action.view := by
  simp only [rolePlan, Role.Change.all_faces, List.map_map]
  exact List.map_congr_left fun change _ => view_roleAction akin change

theorem view_rolePlan_eq (akin : Akin pass other) {declared observed otherDeclared otherObserved : List Role}
    (declares : declared.map Role.face = otherDeclared.map Role.face)
    (observes : observed.map Role.face = otherObserved.map Role.face) :
    (pass.rolePlan declared observed).map Action.view =
      (other.rolePlan otherDeclared otherObserved).map Action.view := by
  rw [view_rolePlan akin, view_rolePlan ⟨rfl, rfl, rfl⟩ otherDeclared, declares, observes]

end Pass

-- Two inputs that differ in nothing but credentials and payload, and in what the cluster notes of them.
structure Lookalike (resource twin : Resource) (observation other : Observation) : Prop where
  namespaceName : resource.namespaceName = twin.namespaceName
  beingDeleted : resource.beingDeleted = twin.beingDeleted
  realm : resource.spec.realm = twin.spec.realm
  clientId : resource.clientId = twin.clientId
  roles : (resource.spec.roles.map fun role => (role.id, role.name)) =
    twin.spec.roles.map fun role => (role.id, role.name)
  observedRealm : observation.realm = other.realm
  client : observation.client.isSome = other.client.isSome
  secret : observation.clientSecret.map (·.metadata.name) = other.clientSecret.map (·.metadata.name)
  observedRoles : (observation.roles.map fun role => (role.id, role.name)) =
    other.roles.map fun role => (role.id, role.name)

namespace Lookalike

variable {resource twin : Resource} {observation other : Observation}

theorem displayName (alike : Lookalike resource twin observation other) :
    resource.displayName = twin.displayName := by
  rw [Resource.displayName, Resource.displayName, alike.namespaceName, alike.clientId]

theorem akin (alike : Lookalike resource twin observation other) :
    Pass.Akin (Pass.of observation resource) (Pass.of other twin) where
  displayName := alike.displayName
  clientId := alike.clientId
  realm := by simp [Pass.of, alike.realm, alike.observedRealm]

theorem view_clientAction (alike : Lookalike resource twin observation other) :
    ((Pass.of observation resource).clientAction observation).view =
      ((Pass.of other twin).clientAction other).view := by
  obtain ⟨displayName, clientId, realm⟩ := alike.akin
  rw [Pass.clientAction, Pass.clientAction, alike.client]
  cases other.client.isSome <;> simp [displayName, clientId, realm]

theorem view_secretAction (alike : Lookalike resource twin observation other) :
    ((Pass.of observation resource).secretAction observation).view =
      ((Pass.of other twin).secretAction other).view := by
  have displayName := alike.akin.displayName
  have names := alike.secret
  unfold Pass.secretAction
  cases observed : observation.clientSecret with
  | none =>
    have unobserved : other.clientSecret = none := by
      rw [observed] at names
      exact Option.map_eq_none_iff.mp names.symm
    have fresh : (Credentials.fresh (Pass.of observation resource).resource).metadata.name =
        (Credentials.fresh (Pass.of other twin).resource).metadata.name :=
      congrArg (fun clientId => some (Credentials.secretName clientId)) alike.clientId
    simp [unobserved, displayName, fresh]
  | some secret =>
    rw [observed] at names
    obtain ⟨counterpart, found, sameName⟩ := Option.map_eq_some_iff.mp names.symm
    have refreshed (resource : Resource) (secret : Secret) :
        (Credentials.refresh resource secret).metadata.name = secret.metadata.name := rfl
    simp [found, displayName, refreshed, sameName]

theorem view_plan (alike : Lookalike resource twin observation other) :
    (resource.plan observation).map Action.view = (twin.plan other).map Action.view := by
  have roles : (resource.rolePlan observation).map Action.view = (twin.rolePlan other).map Action.view :=
    Pass.view_rolePlan_eq alike.akin (Role.faces_eq alike.roles) (Role.faces_eq alike.observedRoles)
  obtain ⟨displayName, clientId, realm⟩ := alike.akin
  simp only [Resource.plan, alike.beingDeleted]
  split
  · simp [displayName, clientId, realm]
  · simp [alike.view_clientAction, alike.view_secretAction, roles]

end Lookalike

namespace Plan

variable {a b : Plan}

theorem map_view {α : Type} (read : Action.View → α) (same : a.map Action.view = b.map Action.view) :
    a.map (read ∘ Action.view) = b.map (read ∘ Action.view) := by
  rw [← List.map_map, ← List.map_map, same]

theorem entries_of_view (same : a.map Action.view = b.map Action.view) : a.entries = b.entries :=
  map_view (fun view => (⟨view.kind, view.target, view.message⟩ : Entry)) same

theorem alike_of_view (same : a.map Action.view = b.map Action.view) : Alike a b :=
  alike_of_outline (.of_eq (map_view (fun view => ((view.kind, view.target), view.rename)) same))

end Plan

namespace Violation

theorem ofRole?_faces (earlier : List Role) (role : Role) :
    ofRole? (earlier.map Role.face) role.face = ofRole? earlier role := by
  simp only [ofRole?, Role.face_name, Role.face_hasId, Role.face_id, List.length_map, List.any_map, List.find?_map,
    Option.map_map]
  rfl

theorem ofRoles?_faces (earlier roles : List Role) :
    ofRoles? (earlier.map Role.face) (roles.map Role.face) = ofRoles? earlier roles := by
  induction roles generalizing earlier with
  | nil => rfl
  | cons role rest ih =>
    have next := ih (earlier ++ [role])
    rw [List.map_append] at next
    rw [List.map_cons, ofRoles?, ofRoles?, ofRole?_faces]
    exact congrArg _ next

theorem first?_eq {resource twin : Resource} {observation other : Observation} (maxRoles : Nat)
    (alike : Lookalike resource twin observation other) : first? maxRoles resource = first? maxRoles twin := by
  have faces := Role.faces_eq alike.roles
  have length : resource.spec.roles.length = twin.spec.roles.length := by
    simpa using congrArg List.length faces
  have roles : ofRoles? [] resource.spec.roles = ofRoles? [] twin.spec.roles := by
    rw [← ofRoles?_faces, faces]
    exact ofRoles?_faces [] _
  simp only [first?, alike.clientId, alike.realm, length, roles]

end Violation

namespace Command

-- A planning command, with all that it reads.
structure Invocation where
  files : Files
  settings : Settings
  service : Service
  desired : String
  observed : Option String
  skipValidation : Bool

namespace Invocation

-- Nothing is printed where the command fails.
def printed (invocation : Invocation) (output : OutputFormat) : Option String :=
  (plan invocation.files invocation.settings invocation.service invocation.desired invocation.observed output
    invocation.skipValidation).1.toOption

-- What the two documents hold. Without an observed one nothing exists yet.
structure Reads (invocation : Invocation) (resource : Resource) (observation : Observation) : Prop where
  resource : loadResource invocation.files invocation.desired = .ok resource
  observation : invocation.observed.elim (.ok {}) (loadObservation invocation.files) = .ok observation

def Passes (invocation : Invocation) (resource : Resource) : Prop :=
  Violation.first? invocation.settings.maxRoles resource = none ∨ invocation.skipValidation = true

instance (invocation : Invocation) (resource : Resource) : Decidable (invocation.Passes resource) :=
  inferInstanceAs (Decidable (_ ∨ _))

variable {invocation : Invocation} {resource : Resource} {observation : Observation}

theorem gate_of_passes (passes : invocation.Passes resource) :
    ∃ refusal, gate invocation.settings invocation.skipValidation invocation.desired resource = .ok refusal := by
  unfold gate
  split
  · exact ⟨none, rfl⟩
  · rename_i violation found
    have skips : invocation.skipValidation = true := passes.resolve_left (by simp [found])
    exact ⟨some (.invalid violation), by simp [skips]⟩

theorem gate_of_not_passes (refused : ¬ invocation.Passes resource) :
    ∃ problem, gate invocation.settings invocation.skipValidation invocation.desired resource = .error problem := by
  obtain ⟨violated, insists⟩ := not_or.mp refused
  unfold gate
  split
  · rename_i valid
    exact absurd valid violated
  · exact ⟨_, if_neg insists⟩

theorem printed_eq (reads : invocation.Reads resource observation) (output : OutputFormat) :
    invocation.printed output =
      if invocation.Passes resource then some (shown output resource (resource.plan observation)) else none := by
  obtain ⟨loaded, observes⟩ := reads
  by_cases passes : invocation.Passes resource
  · obtain ⟨refusal, gated⟩ := gate_of_passes passes
    unfold printed plan
    rw [if_pos passes, loaded]
    simp only [gated, bind, Except.bind, pure, Except.pure]
    cases path : invocation.observed with
    | none =>
      rw [path] at observes
      cases observes
      rfl
    | some path' =>
      rw [path] at observes
      have observes : loadObservation invocation.files path' = .ok observation := observes
      simp only [observes]
      rfl
  · obtain ⟨problem, gated⟩ := gate_of_not_passes passes
    unfold printed plan
    rw [if_neg passes, loaded]
    simp only [gated, bind, Except.bind]
    rfl

end Invocation
end Command

-- Nothing that is shown of a plan, and no realm or client that a call of it names, depends on a credential or
-- on what a role or a client carries besides its id and its name. So two commands that read such inputs print
-- the same, and behind the same gate one of them prints only if the other does.
theorem plan_discloses_no_payload {resource twin : Resource} {observation other : Observation}
    (alike : Lookalike resource twin observation other) :
    (resource.plan observation).entries = (twin.plan other).entries ∧
    (resource.plan observation).keys = (twin.plan other).keys ∧
    (resource.plan observation).summary = (twin.plan other).summary ∧
    ((resource.plan observation).map fun action => action.message) =
      ((twin.plan other).map fun action => action.message) ∧
    ((resource.plan observation).map fun action => (action.operation.realm?, action.operation.clientId?)) =
      ((twin.plan other).map fun action => (action.operation.realm?, action.operation.clientId?)) ∧
    (∀ output, Command.shown output resource (resource.plan observation) =
      Command.shown output twin (twin.plan other)) ∧
    ∀ invocation rival : Command.Invocation, invocation.Reads resource observation → rival.Reads twin other →
      ∀ output,
        (∀ text otherText, invocation.printed output = some text → rival.printed output = some otherText →
          text = otherText) ∧
        (invocation.settings.maxRoles = rival.settings.maxRoles →
          invocation.skipValidation = rival.skipValidation → invocation.printed output = rival.printed output) := by
  have view := alike.view_plan
  have entries := Plan.entries_of_view view
  obtain ⟨keys, summary⟩ := Plan.alike_of_view view
  have shown (output : Command.OutputFormat) : Command.shown output resource (resource.plan observation) =
      Command.shown output twin (twin.plan other) := by
    have text : Command.planText resource (resource.plan observation) = Command.planText twin (twin.plan other) := by
      unfold Command.planText
      rw [alike.displayName, entries, summary]
    have json : Command.planJson resource (resource.plan observation) = Command.planJson twin (twin.plan other) := by
      unfold Command.planJson
      rw [alike.displayName, entries, summary]
    cases output with
    | text => exact text
    | json => exact congrArg (·.pretty ++ "\n") json
  refine ⟨entries, keys, summary, Plan.map_view (·.message) view,
    Plan.map_view (fun view => (view.realm?, view.clientId?)) view, shown, ?_⟩
  intro invocation rival reads rivalReads output
  rw [Command.Invocation.printed_eq reads, Command.Invocation.printed_eq rivalReads, shown]
  constructor
  · intro text otherText printed otherPrinted
    rw [Option.ite_none_right_eq_some] at printed otherPrinted
    exact Option.some.inj (printed.2.symm.trans otherPrinted.2)
  · intro sameLimit sameSkip
    have passes : invocation.Passes resource ↔ rival.Passes twin := by
      rw [Command.Invocation.Passes, Command.Invocation.Passes, Violation.first?_eq _ alike, sameLimit, sameSkip]
    simp only [passes]

-- Everything that may differ does: the client's secret, the bytes of the observed secret, and what the roles
-- carry. A rename and a recreation are among the actions. The commands read one document with two secrets in it.
theorem plan_discloses_no_payload_other_secret :
    let plain : Resource :=
      { metadata := {}
        spec :=
          { realm := "main"
            client := { clientId := "app", secret := some "one" }
            roles := [Role.withId "1" "b", Role.named "a"] } }
    let twin : Resource :=
      { metadata := { namespaceName := some "default", uid := some "7" }
        spec :=
          { realm := "main"
            client := { clientId := "app", secret := some "two", publicClient := true }
            roles := [{ Role.withId "1" "b" with composite := true }, { Role.named "a" with description := some "new" }] } }
    let observation : Observation :=
      { client := some { clientId := "app" }
        clientSecret := some { metadata := { name := some "credentials" } }
        roles := [Role.withId "1" "a"] }
    let other : Observation :=
      { client := some { clientId := "other", secret := some "three" }
        clientSecret := some { metadata := { name := some "credentials" }, immutable := some true }
        roles := [{ Role.withId "1" "a" with containerId := some "app" }] }
    let files : Command.Files := fun secret =>
      .ok ("metadata:\n  name: app\nspec:\n  realm: main\n  client:\n    clientId: app\n    secret: " ++ secret)
    let planning (secret : String) : Command.Invocation := ⟨files, {}, {}, secret, none, true⟩
    (Lookalike plain twin observation other ∧ (plain.plan observation).entries = (twin.plan other).entries) ∧
      ∃ first second, (planning "one").Reads first {} ∧ first.spec.client.secret = some "one" ∧
        (planning "two").Reads second {} ∧ second.spec.client.secret = some "two" ∧
        ∃ text, (planning "one").printed .text = some text ∧ (planning "two").printed .text = some text := by
  intro plain twin observation other files planning
  have alike : Lookalike plain twin observation other := ⟨rfl, rfl, rfl, rfl, rfl, rfl, rfl, rfl, rfl⟩
  refine ⟨⟨alike, (plan_discloses_no_payload alike).1⟩, ?_⟩
  let facts (resource : Resource) := (resource.namespaceName, resource.beingDeleted, resource.spec)
  let spec (secret : String) : Spec := { realm := "main", client := { clientId := "app", secret := some secret } }
  have one : (Command.loadResource files "one").toOption.map facts = some ("default", false, spec "one") := by
    decide +kernel
  have two : (Command.loadResource files "two").toOption.map facts = some ("default", false, spec "two") := by
    decide +kernel
  have loaded {secret : String} (content : (Command.loadResource files secret).toOption.map facts =
      some ("default", false, spec secret)) :
      ∃ resource, (planning secret).Reads resource {} ∧ facts resource = ("default", false, spec secret) := by
    cases read : Command.loadResource files secret with
    | error problem =>
      rw [read] at content
      cases content
    | ok resource =>
      rw [read] at content
      exact ⟨resource, ⟨read, rfl⟩, Option.some.inj content⟩
  obtain ⟨first, firstReads, firstFacts⟩ := loaded one
  obtain ⟨second, secondReads, secondFacts⟩ := loaded two
  obtain ⟨firstNamespace, firstStays, firstSpec⟩ : first.namespaceName = "default" ∧ first.beingDeleted = false ∧
      first.spec = spec "one" := by simpa [facts] using firstFacts
  obtain ⟨secondNamespace, secondStays, secondSpec⟩ : second.namespaceName = "default" ∧
      second.beingDeleted = false ∧ second.spec = spec "two" := by simpa [facts] using secondFacts
  have lookalike : Lookalike first second {} {} := by
    refine ⟨firstNamespace.trans secondNamespace.symm, firstStays.trans secondStays.symm, ?_, ?_, ?_, rfl, rfl, rfl, rfl⟩
    all_goals simp [Resource.clientId, firstSpec, secondSpec, spec]
  have printed : (planning "one").printed .text = some (Command.shown .text first (first.plan {})) := by
    rw [Command.Invocation.printed_eq firstReads, if_pos (.inr rfl)]
  have same := (plan_discloses_no_payload lookalike).2.2.2.2.2.2 _ _ firstReads secondReads .text
  exact ⟨first, second, firstReads, by rw [firstSpec], secondReads, by rw [secondSpec], _, printed,
    (same.2 rfl rfl).symm.trans printed⟩

end RealmPlan
