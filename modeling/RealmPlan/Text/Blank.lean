namespace RealmPlan.Text

-- White space is Unicode's White_Space property; the ASCII part alone would accept a name
-- made of ideographic spaces.
def isBlank (c : Char) : Bool :=
  let n := c.toNat
  (9 ≤ n && n ≤ 13) || n == 0x20 || n == 0x85 || n == 0xA0 || n == 0x1680 ||
    (0x2000 ≤ n && n ≤ 0x200A) || n == 0x2028 || n == 0x2029 || n == 0x202F || n == 0x205F ||
    n == 0x3000

-- The empty text is blank.
def allBlank (s : String) : Bool := s.toList.all isBlank

def dropBlanks (cs : List Char) : List Char := cs.dropWhile isBlank

def trimEnd (s : String) : String := String.ofList (dropBlanks s.toList.reverse).reverse

theorem allBlank_iff (s : String) : allBlank s = true ↔ ∀ c ∈ s.toList, isBlank c = true := by
  simp [allBlank]

theorem isBlank_of_isWhitespace (c : Char) (h : c.isWhitespace = true) : isBlank c = true := by
  simp only [Char.isWhitespace, Bool.or_eq_true, decide_eq_true_eq] at h
  rcases h with ((rfl | rfl) | rfl) | rfl <;> decide

end RealmPlan.Text
