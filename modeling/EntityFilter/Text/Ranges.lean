/-!
# Ranges of characters

A set of characters is given by the ranges of its code points.
-/

namespace EntityFilter.Text

/-- `c` lies in one of the ranges, the ends of which belong to them. -/
def inRanges (ranges : List (Nat × Nat)) (c : Char) : Bool :=
  ranges.any fun range => range.1 ≤ c.toNat && c.toNat ≤ range.2

end EntityFilter.Text
