import RealmPlan.Role
import Std.Data.TreeSet.Lemmas

namespace RealmPlan.Role

-- Answers whether some role of a list denotes a given role without walking through the list.
structure Index where
  ids : Std.TreeSet String
  namesWithoutId : Std.TreeSet String
  names : Std.TreeSet String

namespace Index

def ofList (roles : List Role) : Index where
  ids := .ofList ((roles.filter (·.hasId)).map (·.id))
  namesWithoutId := .ofList ((roles.filter (!·.hasId)).map (·.name))
  names := .ofList (roles.map (·.name))

-- With an id, the same id will do, or the same name on a role that has no id to compare.
def covers (index : Index) (role : Role) : Bool :=
  if role.hasId then index.ids.contains role.id || index.namesWithoutId.contains role.name
  else index.names.contains role.name

-- One more role of the list is one more comparison, whichever of the sets it goes into.
theorem covers_ofList_cons (other : Role) (others : List Role) (role : Role) :
    (ofList (other :: others)).covers role = (other.denotesSame role || (ofList others).covers role) := by
  simp only [covers, ofList, denotesSame, Std.TreeSet.contains_ofList]
  cases numbered : role.hasId with
  | false =>
    simp only [Bool.false_eq_true, if_false, Bool.and_false, List.map_cons, List.contains_cons,
      BEq.comm (a := role.name)]
  | true =>
    cases otherNumbered : other.hasId with
    | false =>
      simp only [otherNumbered, Bool.not_false, Bool.false_eq_true, not_false_eq_true, List.filter_cons_of_neg,
        List.filter_cons_of_pos, List.map_cons, List.contains_cons, BEq.comm (a := role.name), if_true, if_false,
        Bool.and_true, Bool.or_left_comm]
    | true =>
      simp only [otherNumbered, Bool.not_true, Bool.false_eq_true, not_false_eq_true, List.filter_cons_of_neg,
        List.filter_cons_of_pos, List.map_cons, List.contains_cons, BEq.comm (a := role.id), if_true,
        Bool.and_true, Bool.or_assoc]

-- The index answers what a walk through the list would.
theorem covers_ofList (others : List Role) (role : Role) :
    (ofList others).covers role = anyDenotesSame others role := by
  induction others with
  | nil => simp [covers, ofList, anyDenotesSame]
  | cons other others ih => rw [covers_ofList_cons, ih, anyDenotesSame, anyDenotesSame, List.any_cons]

end Index

-- The roles that none of the others denotes, and the roles that some other does; both in order.
def split (roles others : List Role) : List Role × List Role :=
  let index := Index.ofList others
  roles.partition fun role => !index.covers role

theorem split_eq (roles others : List Role) :
    split roles others =
      (roles.filter (!anyDenotesSame others ·), roles.filter (anyDenotesSame others ·)) := by
  simp [split, Index.covers_ofList, List.partition_eq_filter_filter, Function.comp_def]

end RealmPlan.Role
