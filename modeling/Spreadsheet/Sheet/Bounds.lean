import Spreadsheet.Address.Basic

/-!
# Bounds

The numbers of rows and columns of a sheet, each from 2 to 10000; other numbers are clamped to that
range.
-/

namespace Spreadsheet

/-- The least number of rows or columns. -/
def leastDimension : Nat := 2

/-- The greatest number of rows or columns. -/
def greatestDimension : Nat := 10000

/-- The allowed number of rows or columns that is nearest to `n`. -/
def clampDimension (n : Nat) : Nat :=
  max leastDimension (min n greatestDimension)

/-- The numbers of rows and columns of a sheet. -/
structure Bounds where
  rows : Nat
  columns : Nat
  rows_range : leastDimension ≤ rows ∧ rows ≤ greatestDimension
  columns_range : leastDimension ≤ columns ∧ columns ≤ greatestDimension
  deriving DecidableEq

theorem clampDimension_range (n : Nat) :
    leastDimension ≤ clampDimension n ∧ clampDimension n ≤ greatestDimension := by
  simp only [clampDimension, leastDimension, greatestDimension]
  omega

theorem clampDimension_of_range {n : Nat} (h : leastDimension ≤ n ∧ n ≤ greatestDimension) :
    clampDimension n = n := by
  simp only [clampDimension, leastDimension, greatestDimension] at h ⊢
  omega

namespace Bounds

/-- The bounds nearest to the given numbers. -/
def clamp (rows columns : Nat) : Bounds where
  rows := clampDimension rows
  columns := clampDimension columns
  rows_range := clampDimension_range rows
  columns_range := clampDimension_range columns

/-- The bounds of a new sheet when nothing else is asked for: 8 rows and 3 columns. -/
def default : Bounds := clamp 8 3

/-- Whether an address lies inside the bounds. -/
def contains (b : Bounds) (a : Address) : Bool :=
  decide (a.row < b.rows) && decide (a.col < b.columns)

/-- Whether the row or the column of an address lies in the band that `outer` has over `inner`. -/
def inBand (inner outer : Bounds) (a : Address) : Bool :=
  (decide (inner.rows ≤ a.row) && decide (a.row < outer.rows)) ||
    (decide (inner.columns ≤ a.col) && decide (a.col < outer.columns))

/-- The bounds with more rows and columns. -/
def extend (b : Bounds) (rows columns : Nat) : Bounds :=
  clamp (b.rows + rows) (b.columns + columns)

/-- The bounds with fewer rows and columns. -/
def shrink (b : Bounds) (rows columns : Nat) : Bounds :=
  clamp (b.rows - rows) (b.columns - columns)

@[simp] theorem clamp_self (b : Bounds) : clamp b.rows b.columns = b := by
  cases b with
  | mk rows columns hr hc =>
    simp only [clamp, clampDimension_of_range hr, clampDimension_of_range hc]

end Bounds

end Spreadsheet
