/-
# Ranges of code points

The classes of characters are given by tables of ranges with both ends included.
-/

namespace RingTape.Text

/-- Whether a code point lies in one of the ranges. -/
def inRanges (ranges : List (Nat × Nat)) (code : Nat) : Bool :=
  ranges.any fun (first, last) => decide (first ≤ code) && decide (code ≤ last)

end RingTape.Text
