import Spreadsheet.Save.Basic
import Spreadsheet.Sheet.Basic

/-!
# Saving and loading sheets

A sheet is saved as its bounds and its texts, row by row. It is loaded by setting the saved texts in
their order on an empty sheet, so a cell that is listed twice gets the last of its texts, and a cell
outside the bounds is refused.
-/

namespace Spreadsheet.Sheet

/-- What is saved of a sheet. -/
def saved (s : Sheet) : SavedSheet where
  rows := s.bounds.rows
  columns := s.bounds.columns
  cells := s.cells.map fun (a, formula) => ⟨a.row, a.col, formula⟩

/-- Sets the saved cells in their order. -/
def restore (s : Sheet) : List SavedCell → Except SheetError Sheet
  | [] => .ok s
  | c :: cells =>
    match s.set ⟨c.row, c.column⟩ c.formula with
    | .error e => .error e
    | .ok (_, s) => s.restore cells

/-- The sheet that was saved. -/
def ofSaved (saved : SavedSheet) : Except SheetError Sheet :=
  (empty saved.rows saved.columns).restore saved.cells

/-- The text that a sheet is saved as. -/
def save (s : Sheet) : String := s.saved.toText

/-- The sheet that was saved as a text. -/
def load (text : String) : Except SheetError Sheet :=
  match SavedSheet.ofText? text with
  | some saved => ofSaved saved
  | none => .error .document

end Spreadsheet.Sheet
