/-!
# Sets of characters given by ranges

A large set of characters is a list of ranges of code points, both ends included.
-/

namespace TemplatePaint

/-- Ranges of code points, both ends included. -/
abbrev CharRanges := List (Nat × Nat)

/-- The code point of `c` lies in one of the ranges. -/
def CharRanges.has (ranges : CharRanges) (c : Char) : Bool :=
  ranges.any fun r => r.1 ≤ c.toNat && c.toNat ≤ r.2

end TemplatePaint
