import RealmPlan.Json
import RealmPlan.Plan

namespace RealmPlan.Plan

def Entry.json (entry : Entry) : Json :=
  .object [("kind", .text entry.kind.label), ("msg", .text entry.message), ("target", .text entry.target)]

def Summary.json (summary : Summary) : Json :=
  .object [
    ("creates", .ofNat summary.creates),
    ("deletes", .ofNat summary.deletes),
    ("pings", .ofNat summary.pings),
    ("renames", .ofNat summary.renames),
    ("updates", .ofNat summary.updates)]

end RealmPlan.Plan
