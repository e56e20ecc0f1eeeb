/-!
# Sets of characters as ranges

A table of a Unicode property lists the ranges of code points that have it.
-/

namespace Stencil.Text

/-- Whether one of the ranges, both ends included, holds the code point. -/
def inRanges (ranges : List (Nat × Nat)) (n : Nat) : Bool :=
  ranges.any fun (first, last) => first ≤ n && n ≤ last

end Stencil.Text
