import RealmPlan.Text.Lowercase

namespace RealmPlan.Text

-- Small letters that are other forms of a small letter.
def formRuns : List (Nat × Nat) :=
  [(0xb5, 0x3bc), (0x17f, 0x73), (0x345, 0x3b9), (0x3c2, 0x3c3), (0x3d0, 0x3b2), (0x3d1, 0x3b8),
   (0x3d5, 0x3c6), (0x3d6, 0x3c0), (0x3f0, 0x3ba), (0x3f1, 0x3c1), (0x3f5, 0x3b5), (0x1c80, 0x432),
   (0x1c81, 0x434), (0x1c82, 0x43e), (0x1c83, 0x441), (0x1c84, 0x442), (0x1c85, 0x442),
   (0x1c86, 0x44a), (0x1c87, 0x463), (0x1c88, 0xa64b), (0x1e9b, 0x1e61), (0x1fbe, 0x3b9),
   (0x1fd3, 0x390), (0x1fe3, 0x3b0), (0xfb05, 0xfb06)]

-- One letter for all that differ in case or form only.
def plainForm (c : Char) : Char :=
  match formRuns.lookup c.toNat with
  | some form => Char.ofNat form
  | none => lowerChar c

def capitalsOf (c : Char) : List Char :=
  capitalRuns.filterMap fun (first, last, stride, behind) =>
    let capital := (c.toNat : Int) - behind
    if first ≤ capital && capital ≤ last && (capital - first) % stride == 0 then
      some (Char.ofNat capital.toNat)
    else none

def formsOf (c : Char) : List Char :=
  (formRuns.filter (·.2 == c.toNat)).map fun form => Char.ofNat form.1

-- Every character with the same plain form.
def kin (c : Char) : List Char :=
  let plain := plainForm c
  plain :: (capitalsOf plain ++ formsOf plain)

end RealmPlan.Text
