/-!
# Membership in a table of ranges

The character classes of the standard are kept as ascending lists of closed
ranges; membership is the search through one of them.
-/

namespace Audience

/-- Whether a code point lies in one of the closed ranges. -/
def inRanges (ranges : List (Nat × Nat)) (c : Nat) : Bool :=
  ranges.any fun r => r.1 ≤ c && c ≤ r.2

end Audience
