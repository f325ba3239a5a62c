import RealmPlan.Credentials
import RealmPlan.Pass
import RealmPlan.Plan
import RealmPlan.Role.Change

namespace RealmPlan.Pass

def roleAction (pass : Pass) : Role.Change → Action
  | .remove role => pass.deleteRole role
  | .update role old => pass.updateRole role old
  | .adopt role | .refresh role => pass.updateRole role role
  | .recreate role | .create role => pass.createRole role

def rolePlan (pass : Pass) (declared observed : List Role) : Plan :=
  (Role.Change.all declared observed).map pass.roleAction

def clientAction (pass : Pass) (observation : Observation) : Action :=
  if observation.client.isSome then pass.updateClient else pass.createClient

def secretAction (pass : Pass) (observation : Observation) : Action :=
  match observation.clientSecret with
  | none => pass.createSecret (Credentials.fresh pass.resource)
  | some observed => pass.updateSecret (Credentials.refresh pass.resource observed)

end RealmPlan.Pass

namespace RealmPlan.Resource

def rolePlan (resource : Resource) (observation : Observation) : Plan :=
  (Pass.of observation resource).rolePlan resource.spec.roles observation.roles

-- A resource that goes takes its client along, and the realm drops the client's roles by itself.
def plan (resource : Resource) (observation : Observation) : Plan :=
  let pass := Pass.of observation resource
  if resource.beingDeleted then [Pass.ping, pass.deleteClient]
  else
    [Pass.ping, pass.clientAction observation, pass.secretAction observation] ++
      resource.rolePlan observation

end RealmPlan.Resource
