/-!
# Sets of code points

A class of characters is an ascending list of closed ranges of code points.
-/

namespace RepoCensus.Text

/-- Whether `n` lies in one of the ranges, which are in ascending order. -/
def inRanges (n : Nat) : List (Nat × Nat) → Bool
  | [] => false
  | (first, last) :: rest => if n < first then false else n ≤ last || inRanges n rest

end RepoCensus.Text
