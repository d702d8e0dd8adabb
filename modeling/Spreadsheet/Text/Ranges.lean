/-!
# Sets of code points

A set of code points is a list of closed ranges in increasing order. The look-up stops at the first
range that starts behind the code point.
-/

namespace Spreadsheet.Text

/-- Whether `n` lies in one of the closed ranges, which stand in increasing order. -/
def inRanges (n : Nat) : List (Nat × Nat) → Bool
  | [] => false
  | (low, high) :: rest => if n < low then false else decide (n ≤ high) || inRanges n rest

theorem inRanges_cons {n low high : Nat} (h : low ≤ n) (h' : n ≤ high) (rest : List (Nat × Nat)) :
    inRanges n ((low, high) :: rest) = true := by
  simp [inRanges, Nat.not_lt.mpr h, h']

end Spreadsheet.Text
