import Spreadsheet.Proofs.Formula.References
import Spreadsheet.Proofs.Sheet.Representation

/-!
# Values without a memory

`Recalculates bounds text` is the recursive evaluation of a sheet of which only the bounds and the
texts are known: every text is parsed and evaluated at each of its uses. It gives an address at most
one value (`Recalculates.unique`), and none if the address reaches a cycle.
-/

namespace Spreadsheet

/-- The value at an address is the error of an invalid address outside the bounds, and inside them
the value of the text there, each of whose references has the value that it has in turn. -/
inductive Recalculates (bounds : Bounds) (text : Address → String) : Address → Value → Prop
  | outside {a : Address} (h : bounds.contains a = false) :
    Recalculates bounds text a (invalidAddress a)
  | inside {a : Address} {lookup : Address → Value} (h : bounds.contains a = true)
    (references : ∀ r ∈ (Expr.ofText (text a)).references, Recalculates bounds text r (lookup r)) :
    Recalculates bounds text a ((Expr.ofText (text a)).eval lookup)

/-- The text at an address has a value, wherever the address lies. -/
def Settles (bounds : Bounds) (text : Address → String) (a : Address) (v : Value) : Prop :=
  ∃ lookup : Address → Value,
    (∀ r ∈ (Expr.ofText (text a)).references, Recalculates bounds text r (lookup r)) ∧
      v = (Expr.ofText (text a)).eval lookup

variable {bounds : Bounds} {text : Address → String} {a : Address} {v : Value}

/-- **Recalculation is deterministic.** -/
theorem Recalculates.unique {v' : Value} (h : Recalculates bounds text a v)
    (h' : Recalculates bounds text a v') : v = v' := by
  induction h generalizing v' with
  | outside h =>
    cases h' with
    | outside _ => rfl
    | inside inside _ =>
      rw [h] at inside
      cases inside
  | inside h _ ih =>
    cases h' with
    | outside outside =>
      rw [h] at outside
      cases outside
    | inside _ references => exact Expr.eval_congr fun r hr => ih r hr (references r hr)

theorem Settles.recalculates (h : Settles bounds text a v) (inside : bounds.contains a = true) :
    Recalculates bounds text a v := by
  obtain ⟨lookup, references, rfl⟩ := h
  exact .inside inside references

/-- A blank text has the empty value. -/
theorem settles_blank (blank : text a = "") : Settles bounds text a Value.empty := by
  refine ⟨fun _ => Value.empty, fun r hr => ?_, ?_⟩
  · rw [blank] at hr
    exact absurd hr Std.ExtTreeSet.not_mem_empty
  · rw [blank]
    exact (Expr.eval.eq_2 _ _).symm

end Spreadsheet
