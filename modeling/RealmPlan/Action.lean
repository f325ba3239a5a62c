import RealmPlan.Resource
import RealmPlan.Secret

namespace RealmPlan

-- What an action changes, if it changes anything.
inductive Effect where
  | check
  | create
  | update
  | delete
deriving DecidableEq, Repr, Inhabited

namespace Operation

-- The order of the kinds is the order in which plans are compared.
inductive Kind where
  | ping
  | createClient
  | updateClient
  | deleteClient
  | createSecret
  | updateSecret
  | createRole
  | updateRole
  | deleteRole
deriving DecidableEq, Repr, Inhabited

namespace Kind

def all : List Kind :=
  [ping, createClient, updateClient, deleteClient, createSecret, updateSecret, createRole, updateRole,
   deleteRole]

def rank : Kind → Nat
  | ping => 0
  | createClient => 1
  | updateClient => 2
  | deleteClient => 3
  | createSecret => 4
  | updateSecret => 5
  | createRole => 6
  | updateRole => 7
  | deleteRole => 8

-- Stable: plans, counters and their readers share these words.
def label : Kind → String
  | ping => "ping"
  | createClient => "create-client"
  | updateClient => "update-client"
  | deleteClient => "delete-client"
  | createSecret => "create-client-secret"
  | updateSecret => "update-client-secret"
  | createRole => "create-client-role"
  | updateRole => "update-client-role"
  | deleteRole => "delete-client-role"

def ofLabel? (label : String) : Option Kind := all.find? fun kind => kind.label == label

def effect : Kind → Effect
  | ping => .check
  | createClient | createSecret | createRole => .create
  | updateClient | updateSecret | updateRole => .update
  | deleteClient | deleteRole => .delete

end Kind
end Operation

-- One call on the realm or on the secret store, with all that the call needs.
inductive Operation where
  | ping
  | createClient (client : Resource) (realm : String)
  | updateClient (client : Resource) (realm : String)
  -- The realm drops the client's roles with it.
  | deleteClient (client : Resource) (realm : String)
  | createSecret (secret : Secret)
  | updateSecret (secret : Secret)
  | createRole (role : Role) (clientId realm : String)
  -- The role that the realm knows as `old` becomes `role`.
  | updateRole (role old : Role) (clientId realm : String)
  | deleteRole (role : Role) (clientId realm : String)
deriving Inhabited

namespace Operation

def kind : Operation → Kind
  | ping => .ping
  | createClient .. => .createClient
  | updateClient .. => .updateClient
  | deleteClient .. => .deleteClient
  | createSecret .. => .createSecret
  | updateSecret .. => .updateSecret
  | createRole .. => .createRole
  | updateRole .. => .updateRole
  | deleteRole .. => .deleteRole

-- What the call is about. A rename is about the name it leads to.
def target : Operation → String
  | ping => "keycloak"
  | createClient client _ | updateClient client _ | deleteClient client _ => client.clientId
  | createSecret secret | updateSecret secret => secret.metadata.name.getD ""
  | createRole role _ _ | updateRole role _ _ _ | deleteRole role _ _ => role.name

def isMutating (operation : Operation) : Bool := operation.kind.effect != .check

def isRename : Operation → Bool
  | updateRole role old _ _ => role.name != old.name
  | _ => false

end Operation

-- A planned call and the words for it.
structure Action where
  operation : Operation
  message : String
deriving Inhabited

namespace Action

def kind (action : Action) : Operation.Kind := action.operation.kind
def effect (action : Action) : Effect := action.kind.effect
def target (action : Action) : String := action.operation.target
def isMutating (action : Action) : Bool := action.operation.isMutating
def isRename (action : Action) : Bool := action.operation.isRename
def display (action : Action) : String := "[" ++ action.kind.label ++ "] " ++ action.message

end Action
end RealmPlan
