namespace RealmPlan.Word

-- Whole numbers of 64 bits: how many there are, and where those with a sign end.
def count : Nat := 0x10000000000000000
def signedEnd : Nat := 0x8000000000000000

def fits (n : Nat) : Bool := n < count

def fitsSigned (n : Int) : Bool := -(signedEnd : Int) ≤ n && n < signedEnd

-- Two words side by side, with or without a sign.
def fitsDouble (n : Int) : Bool := -(signedEnd * count : Int) ≤ n && n < count * count

end RealmPlan.Word
