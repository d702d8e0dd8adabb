import Std.Data.ExtTreeMap
import Std.Data.ExtTreeSet

/-!
# Addresses

An address is a row and a column, both counted from zero, in row-major order: rows first, then
columns. The order is lawful, so sets and maps over addresses are determined by their members.
-/

namespace Spreadsheet

/-- The place of a cell: its row and its column, counted from zero. -/
structure Address where
  row : Nat
  col : Nat
  deriving DecidableEq, Repr

namespace Address

/-- Row-major order. -/
instance : Ord Address :=
  ⟨compareLex (compareOn Address.row) (compareOn Address.col)⟩

theorem compare_def (a b : Address) :
    compare a b = (compare a.row b.row).then (compare a.col b.col) := rfl

instance : Std.TransOrd Address :=
  inferInstanceAs (Std.TransCmp (compareLex (compareOn Address.row) (compareOn Address.col)))

instance : Std.LawfulEqOrd Address where
  eq_of_compare {a b} h := by
    rw [compare_def, Ordering.then_eq_eq, Std.LawfulEqOrd.compare_eq_iff_eq,
      Std.LawfulEqOrd.compare_eq_iff_eq] at h
    cases a
    cases b
    simpa using h

end Address

/-- A finite set of addresses. -/
abbrev AddressSet := Std.ExtTreeSet Address

/-- A finite map on addresses. -/
abbrev AddressMap (α : Type) := Std.ExtTreeMap Address α

end Spreadsheet
