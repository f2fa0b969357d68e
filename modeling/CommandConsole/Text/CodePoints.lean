/-! # Sets of code points

A character property is a list of disjoint ranges of code points in ascending order.
-/

namespace CommandConsole.Text

/-- Whether `n` lies in one of the ranges, ends included. The ranges ascend, so the search stops at
the first one that begins after `n`. -/
def inRanges (n : Nat) : List (Nat × Nat) → Bool
  | [] => false
  | (first, last) :: rest => if n < first then false else n ≤ last || inRanges n rest

end CommandConsole.Text
