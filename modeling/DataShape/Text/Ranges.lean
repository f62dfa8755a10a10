-- SUMMARY: Sets of code points given as ascending ranges.

/-!
# Code point ranges

A character property is a table of closed ranges in ascending order.
-/

namespace DataShape.Text

/-- Whether a code point number lies in one of the ranges, which ascend. -/
def inRanges (n : Nat) : List (Nat × Nat) → Bool
  | [] => false
  | (low, high) :: rest => low ≤ n && (n ≤ high || inRanges n rest)

end DataShape.Text
