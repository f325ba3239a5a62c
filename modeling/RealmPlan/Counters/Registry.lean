import RealmPlan.Counters.Exposition

namespace RealmPlan

-- The names of the families that a scraper gets to see.
structure Registry where
  names : List String := []
  -- How the first registration ended. Every later one is answered the same and registers nothing.
  outcome : Option (Except String Unit) := none

namespace Registry

def nameTaken : String := "Duplicate metrics collector registration attempted"

-- A name that is taken ends the registration; what was added before it stays.
def add (registered : List String) : List String → Except String Unit × List String
  | [] => (.ok (), registered)
  | name :: rest =>
    if name ∈ registered then (.error nameTaken, registered) else add (registered ++ [name]) rest

def register (registry : Registry) (families : List String) : Except String Unit × Registry :=
  let answer (outcome : Except String Unit) := outcome.mapError ("Failed to register metrics: " ++ ·)
  match registry.outcome with
  | some outcome => (answer outcome, registry)
  | none =>
    let (outcome, names) := add registry.names families
    (answer outcome, ⟨names, some outcome⟩)

def shown (registry : Registry) (counters : Counters) : List Counters.Family :=
  counters.families.filter fun family => family.name ∈ registry.names

end Registry
end RealmPlan
