import Spreadsheet.Sheet.Bounds

/-!
# Settings

The settings of a user: how many rows and columns a new sheet has. They are kept in a small text
file, a fragment of TOML with a line for each of the two.
-/

namespace Spreadsheet

/-- The settings. The numbers are those that were asked for, before they are clamped. -/
structure Config where
  rows : Nat := Bounds.default.rows
  columns : Nat := Bounds.default.columns
  deriving DecidableEq

end Spreadsheet
