import RealmPlan.Action
import RealmPlan.Observation

namespace RealmPlan

-- One pass over a resource. Every action of the pass names the same realm.
structure Pass where
  resource : Resource
  realm : String

namespace Pass

-- The observed realm wins; the declared one is used until there is one.
def of (observation : Observation) (resource : Resource) : Pass where
  resource
  realm := if observation.realm.isEmpty then resource.spec.realm else observation.realm

def clientId (pass : Pass) : String := pass.resource.clientId
def displayName (pass : Pass) : String := pass.resource.displayName

def pingMessage : String := "check if keycloak is available"

def ping : Action := ⟨.ping, pingMessage⟩

def createClient (pass : Pass) : Action :=
  ⟨.createClient pass.resource pass.realm, "create client " ++ pass.displayName⟩

def updateClient (pass : Pass) : Action :=
  ⟨.updateClient pass.resource pass.realm, "update client " ++ pass.displayName⟩

def deleteClient (pass : Pass) : Action :=
  ⟨.deleteClient pass.resource pass.realm, "removing client " ++ pass.displayName⟩

def createSecret (pass : Pass) (secret : Secret) : Action :=
  ⟨.createSecret secret, "create client secret " ++ pass.displayName⟩

def updateSecret (pass : Pass) (secret : Secret) : Action :=
  ⟨.updateSecret secret, "update client secret " ++ pass.displayName⟩

def createRole (pass : Pass) (role : Role) : Action :=
  ⟨.createRole role pass.clientId pass.realm,
   "create client role " ++ pass.displayName ++ "/" ++ role.name⟩

-- The words name the role as it is before the update.
def updateRole (pass : Pass) (role old : Role) : Action :=
  ⟨.updateRole role old pass.clientId pass.realm,
   "update client role " ++ pass.displayName ++ "/" ++ old.name⟩

def deleteRole (pass : Pass) (role : Role) : Action :=
  ⟨.deleteRole role pass.clientId pass.realm,
   "delete client role " ++ pass.displayName ++ "/" ++ role.name⟩

end Pass
end RealmPlan
