import RealmPlan.Metadata

namespace RealmPlan

-- A secret of the cluster: named bytes, kept apart from the resources that use them.
structure Secret where
  metadata : Metadata := {}
  data : Option (Dict (List UInt8)) := none
  immutable : Option Bool := none
  stringData : Option (Dict String) := none
  type : Option String := none
deriving Inhabited

end RealmPlan
