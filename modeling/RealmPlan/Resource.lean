import RealmPlan.Client
import RealmPlan.Metadata
import RealmPlan.Role
import RealmPlan.Status

namespace RealmPlan

-- What a resource asks for: a client in a realm, and the roles that exist on it.
structure Spec where
  realm : String
  client : Client
  roles : List Role := []
deriving DecidableEq, Inhabited

-- A declared client.
structure Resource where
  metadata : Metadata
  spec : Spec
  status : Option Status := none
deriving Inhabited

namespace Resource

def apiVersion : String := "keycloak.org/v1alpha1"
def kind : String := "KeycloakClient"

def named (name : String) (spec : Spec) : Resource := { metadata := { name := some name }, spec }

def namespaceName (resource : Resource) : String := resource.metadata.namespaceName.getD "default"

def beingDeleted (resource : Resource) : Bool := resource.metadata.deletionTimestamp.isSome

def clientId (resource : Resource) : String := resource.spec.client.clientId

def displayName (resource : Resource) : String := resource.namespaceName ++ "/" ++ resource.clientId

end Resource
end RealmPlan
