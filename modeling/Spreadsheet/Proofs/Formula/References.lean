import Spreadsheet.Formula.Parser

/-!
# Expressions and what they read

An expression reads its references and nothing else: two look-ups that agree on them give it the
same value (`Expr.eval_congr`).
-/

namespace Spreadsheet.Expr

variable {f g : Address → Value}

mutual

theorem eval_congr_reads : ∀ (e : Expr), (∀ a ∈ e.reads, f a = g a) → e.eval f = e.eval g
  | .number x, _ => by rw [eval, eval]
  | .text s, _ => by rw [eval, eval]
  | .reference a, h => by
    rw [eval, eval]
    exact h a (by simp [reads])
  | .unary op operand, h => by
    rw [eval, eval, eval_congr_reads operand (by simpa only [reads] using h)]
  | .binary op left right, h => by
    simp only [reads, List.mem_append] at h
    rw [eval, eval, eval_congr_reads left fun a ha => h a (Or.inl ha),
      eval_congr_reads right fun a ha => h a (Or.inr ha)]
  | .call function args, h => by
    rw [eval, eval, evalArgs_congr_reads args (by simpa only [reads] using h)]
  | .error message, _ => by rw [eval, eval]

theorem evalArgs_congr_reads : ∀ (args : List Expr), (∀ a ∈ readsArgs args, f a = g a) →
    evalArgs f args = evalArgs g args
  | [], _ => by rw [evalArgs, evalArgs]
  | arg :: args, h => by
    simp only [readsArgs, List.mem_append] at h
    rw [evalArgs, evalArgs, eval_congr_reads arg fun a ha => h a (Or.inl ha),
      evalArgs_congr_reads args fun a ha => h a (Or.inr ha)]

end

/-- **The value of an expression depends on its references only.** -/
theorem eval_congr {e : Expr} (h : ∀ a ∈ e.references, f a = g a) : e.eval f = e.eval g :=
  eval_congr_reads e fun a ha => h a (mem_references.2 ha)

end Spreadsheet.Expr
