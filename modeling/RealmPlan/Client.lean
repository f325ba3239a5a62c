namespace RealmPlan

-- A client as its realm registers it. The id is the realm's own and empty until it gives one.
structure Client where
  id : String := ""
  clientId : String
  name : Option String := none
  secret : Option String := none
  description : Option String := none
  enabled : Bool := true
  publicClient : Bool := false
  rootUrl : Option String := none
  redirectUris : List String := []
deriving DecidableEq, Inhabited

def Client.hasId (client : Client) : Bool := !client.id.isEmpty

end RealmPlan
