import RealmPlan.Client
import RealmPlan.Role
import RealmPlan.Secret

namespace RealmPlan

-- What exists for one client at the start of a pass. The realm is empty while it is unknown.
structure Observation where
  realm : String := ""
  client : Option Client := none
  clientSecret : Option Secret := none
  roles : List Role := []
deriving Inhabited

end RealmPlan
