import Spreadsheet.Formula.Expr

/-!
# Errors are passed on

Every sign, operator and function answers an error if one of its operands is an error, in whatever
place it stands and however many operands there are. So a formula that reads an error is one
(`Expr.isError_eval`).
-/

namespace Spreadsheet

namespace Value

variable {x y : Value}

theorem isError_unexpected (expected : String) (v : Value) :
    (unexpected expected v).isError = true := rfl

/-- What `expectNumber` answers in place of a number is an error. -/
theorem isError_of_expectNumber {e : Value} (h : x.expectNumber = .error e) : e.isError = true := by
  cases x with
  | number a => cases h
  | text s =>
    injection h with h
    rw [← h]
    exact isError_unexpected _ _
  | error message =>
    injection h with h
    rw [← h]
    exact isError_unexpected _ _

/-- An error is no number. -/
theorem expectNumber_of_isError (h : x.isError = true) : ∃ e, x.expectNumber = .error e := by
  obtain ⟨message, rfl⟩ := isError_iff.1 h
  exact ⟨_, rfl⟩

theorem isError_mapNumber (f : Float → Float) (h : x.isError = true) :
    (mapNumber f x).isError = true := by
  obtain ⟨e, he⟩ := expectNumber_of_isError h
  rw [mapNumber, he]
  exact isError_of_expectNumber he

theorem isError_mapNumbers (f : Float → Float → Float) (h : x.isError = true ∨ y.isError = true) :
    (mapNumbers f x y).isError = true := by
  rw [mapNumbers]
  split
  · rename_i e he
    exact isError_of_expectNumber he
  · rename_i a ha
    -- the left operand is a number, so the error is the right one
    have right : y.isError = true := by
      refine h.resolve_left fun left => ?_
      obtain ⟨e, he⟩ := expectNumber_of_isError left
      rw [ha] at he
      cases he
    obtain ⟨e, he⟩ := expectNumber_of_isError right
    rw [he]
    exact isError_of_expectNumber he

end Value

theorem UnaryOp.isError_apply (op : UnaryOp) {x : Value} (h : x.isError = true) :
    (op.apply x).isError = true := by
  cases op with
  | negate => exact Value.isError_mapNumber _ h
  | plus => exact Value.isError_mapNumber _ h

theorem BinaryOp.isError_apply (op : BinaryOp) {x y : Value}
    (h : x.isError = true ∨ y.isError = true) : (op.apply x y).isError = true := by
  cases op <;> exact Value.isError_mapNumbers _ h

namespace Builtin

variable {v first last : Value}

/-- What `expectWhole` answers in place of a whole number is an error. -/
theorem isError_of_expectWhole {e : Value} (h : expectWhole v = .error e) : e.isError = true := by
  unfold expectWhole at h
  split at h
  · cases h
  · injection h with h
    rw [← h]
    exact Value.isError_unexpected _ _

/-- An error is no whole number. -/
theorem expectWhole_of_isError (h : v.isError = true) : ∃ e, expectWhole v = .error e := by
  obtain ⟨message, rfl⟩ := Value.isError_iff.1 h
  exact ⟨_, rfl⟩

theorem isError_substring (h : v.isError = true ∨ first.isError = true ∨ last.isError = true) :
    (substring v first last).isError = true := by
  rw [substring.eq_def]
  split
  · rename_i s
    have places : first.isError = true ∨ last.isError = true := by simpa using h
    split
    · rename_i e he
      exact isError_of_expectWhole he
    · rename_i i hi
      have right : last.isError = true := by
        refine places.resolve_left fun left => ?_
        obtain ⟨e, he⟩ := expectWhole_of_isError left
        rw [hi] at he
        cases he
      obtain ⟨e, he⟩ := expectWhole_of_isError right
      rw [he]
      exact isError_of_expectWhole he
  · exact Value.isError_unexpected _ _

/-- **A function passes on an error argument**, also when it gets a wrong number of arguments. -/
theorem isError_apply (function : Builtin) {args : List Value} (mem : v ∈ args)
    (h : v.isError = true) : (function.apply args).isError = true := by
  unfold apply
  split
  · obtain rfl : v = _ := List.mem_singleton.1 mem
    exact Value.isError_mapNumber _ h
  · apply Value.isError_mapNumbers
    simp only [List.mem_cons, List.not_mem_nil, or_false] at mem
    rcases mem with rfl | rfl
    · exact Or.inl h
    · exact Or.inr h
  · apply isError_substring
    simp only [List.mem_cons, List.not_mem_nil, or_false] at mem
    rcases mem with rfl | rfl | rfl
    · exact Or.inl h
    · exact Or.inr (Or.inl h)
    · exact Or.inr (Or.inr h)
  · exact absurd mem List.not_mem_nil
  · apply Value.isError_mapNumbers
    simp only [List.mem_cons, List.not_mem_nil, or_false] at mem
    rcases mem with rfl | rfl
    · exact Or.inl h
    · exact Or.inr h
  · rfl

end Builtin

namespace Expr

variable {lookup : Address → Value} {a : Address}

mutual

theorem isError_eval_of_reads : ∀ (e : Expr), a ∈ e.reads → (lookup a).isError = true →
    (e.eval lookup).isError = true
  | .number x, mem, _ => by
    rw [reads] at mem
    cases mem
  | .text s, mem, _ => by
    rw [reads] at mem
    cases mem
  | .reference b, mem, h => by
    rw [reads, List.mem_singleton] at mem
    rw [eval, ← mem]
    exact h
  | .unary op operand, mem, h => by
    rw [reads] at mem
    rw [eval]
    exact op.isError_apply (isError_eval_of_reads operand mem h)
  | .binary op left right, mem, h => by
    rw [reads, List.mem_append] at mem
    rw [eval]
    apply op.isError_apply
    rcases mem with mem | mem
    · exact Or.inl (isError_eval_of_reads left mem h)
    · exact Or.inr (isError_eval_of_reads right mem h)
  | .call function args, mem, h => by
    rw [reads] at mem
    rw [eval]
    obtain ⟨v, hv, error⟩ := exists_isError_of_readsArgs args mem h
    exact function.isError_apply hv error
  | .error message, mem, _ => by
    rw [reads] at mem
    cases mem

theorem exists_isError_of_readsArgs : ∀ (args : List Expr), a ∈ readsArgs args →
    (lookup a).isError = true → ∃ v ∈ evalArgs lookup args, v.isError = true
  | [], mem, _ => by
    rw [readsArgs] at mem
    cases mem
  | arg :: args, mem, h => by
    rw [readsArgs, List.mem_append] at mem
    rw [evalArgs]
    rcases mem with mem | mem
    · exact ⟨_, List.mem_cons_self, isError_eval_of_reads arg mem h⟩
    · obtain ⟨v, hv, error⟩ := exists_isError_of_readsArgs args mem h
      exact ⟨v, List.mem_cons_of_mem _ hv, error⟩

end

/-- **A formula that reads an error is an error.** -/
theorem isError_eval {e : Expr} (mem : a ∈ e.references) (h : (lookup a).isError = true) :
    (e.eval lookup).isError = true :=
  isError_eval_of_reads e (mem_references.1 mem) h

end Expr

end Spreadsheet
