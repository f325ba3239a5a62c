namespace RealmPlan.Text

-- A set of characters as the first and last of each run, in order. The sets are those of Unicode 17.
abbrev Runs := List (Nat × Nat)

def Runs.holds (runs : Runs) (c : Char) : Bool :=
  runs.any fun run => run.1 ≤ c.toNat && c.toNat ≤ run.2

end RealmPlan.Text
