import Spreadsheet.Formula.Parser

/-!
# Cells

A cell keeps its text, the expression of the text, the addresses that the expression reads and, once
it has been computed, its value. A blank cell has an empty text and is computed from the start.
-/

namespace Spreadsheet

/-- A cell. -/
structure Cell where
  formula : String
  expr : Expr
  references : AddressSet
  cached : Option Value

namespace Cell

/-- The cell of a text, not yet computed. -/
def ofText (s : String) : Cell :=
  let expr := Expr.ofText s
  { formula := s, expr := expr, references := expr.references, cached := none }

/-- The cell of every address that was never set. -/
def blank : Cell :=
  { formula := "", expr := .text "", references := ∅, cached := some Value.empty }

/-- Whether the text of the cell is empty. -/
def isBlank (c : Cell) : Bool := c.formula.isEmpty

/-- Whether some reference of the cell has a property. -/
def readsAny (c : Cell) (p : Address → Bool) : Bool :=
  c.references.toList.any p

@[simp] theorem isBlank_blank : blank.isBlank = true := rfl

theorem isBlank_iff {c : Cell} : c.isBlank = true ↔ c.formula = "" := by
  simp [isBlank]

end Cell

end Spreadsheet
