/-! Sets of characters given by ranges of code points. -/

namespace DocPages

/-- First and last code point. -/
abbrev CodeRange := Nat × Nat

/-- First and last code point, and the distance of neighbours. -/
abbrev CodeRun := Nat × Nat × Nat

namespace CodeRange

def contains (r : CodeRange) (c : Char) : Bool := r.1 ≤ c.toNat && c.toNat ≤ r.2

def anyContains (rs : List CodeRange) (c : Char) : Bool := rs.any (contains · c)

end CodeRange

namespace CodeRun

def contains : CodeRun → Char → Bool
  | (first, last, stride), c =>
    first ≤ c.toNat && c.toNat ≤ last && (c.toNat - first) % stride == 0

end CodeRun

end DocPages
