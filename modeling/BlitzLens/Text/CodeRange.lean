/-!
# Ranges of code points

Character classes beyond ASCII are given as lists of closed ranges of code points.
-/

namespace BlitzLens

/-- A closed range of code points, given by its first and its last. -/
abbrev CodeRange := Nat × Nat

namespace CodeRange

/-- Whether the code point of `c` lies in `range`. -/
def contains (range : CodeRange) (c : Char) : Bool :=
  range.1 ≤ c.toNat && c.toNat ≤ range.2

/-- Whether the code point of `c` lies in one of `ranges`. -/
def memberOf (ranges : List CodeRange) (c : Char) : Bool :=
  ranges.any (contains · c)

end CodeRange

end BlitzLens
