import RealmPlan.Resource
import RealmPlan.Secret

namespace RealmPlan.Credentials

-- The secret through which workloads get the credentials of a client.

def secretNamePrefix : String := "keycloak-client-secret-"
def idKey : String := "CLIENT_ID"
def secretKey : String := "CLIENT_SECRET"

def secretName (clientId : String) : String := secretNamePrefix ++ clientId

def utf8 (s : String) : List UInt8 := s.toUTF8.toList

-- A client without a secret of its own publishes an empty one.
def entries (resource : Resource) : List (String × List UInt8) :=
  [(idKey, utf8 resource.clientId), (secretKey, utf8 (resource.spec.client.secret.getD ""))]

def fresh (resource : Resource) : Secret where
  metadata := {
    name := some (secretName resource.clientId)
    namespaceName := some resource.namespaceName
    labels := some (.ofList [("app", "keycloak")]) }
  data := some (.ofList (entries resource))

-- Only the credentials are overwritten, so the observed version still fits and the update applies.
def refresh (resource : Resource) (observed : Secret) : Secret :=
  { observed with data := some ((observed.data.getD .empty).extend (entries resource)) }

end RealmPlan.Credentials
