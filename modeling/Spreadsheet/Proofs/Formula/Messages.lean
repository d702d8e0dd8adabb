import Spreadsheet.Proofs.Formula.References
import Spreadsheet.Proofs.Formula.Strictness

/-!
# Operations hide the messages of errors

A sign, an operator or a function sees of an error operand that it is an error and nothing else: it
answers the same if the messages of its operands are taken away (`UnaryOp.apply_muted`,
`BinaryOp.apply_muted`, `Builtin.apply_muted`). So the value of a formula that is not a bare
reference does not depend on the messages of the errors that it reads (`Expr.eval_of_muted`). With
the laws on references and on errors this says what a formula makes of a look-up
(`Expr.eval_lookups`).
-/

namespace Spreadsheet

namespace Value

/-- The value, without its message if it is an error. -/
def muted : Value → Value
  | .error _ => .error ""
  | v => v

@[simp] theorem muted_muted (v : Value) : v.muted.muted = v.muted := by
  cases v <;> rfl

/-- Two values differ in their messages at most if they are the same, or an error each. -/
theorem muted_eq_iff {v w : Value} :
    v.muted = w.muted ↔ v = w ∨ v.isError = true ∧ w.isError = true := by
  cases v <;> cases w <;> simp [muted]

theorem muted_eq_of_isError {v w : Value} (hv : v.isError = true) (hw : w.isError = true) :
    v.muted = w.muted :=
  muted_eq_iff.2 (Or.inr ⟨hv, hw⟩)

@[simp] theorem expectNumber_muted (v : Value) : v.muted.expectNumber = v.expectNumber := by
  cases v <;> rfl

@[simp] theorem unexpected_muted (expected : String) (v : Value) :
    unexpected expected v.muted = unexpected expected v := by
  cases v <;> rfl

@[simp] theorem mapNumber_muted (f : Float → Float) (x : Value) :
    mapNumber f x.muted = mapNumber f x := by
  rw [mapNumber, expectNumber_muted, mapNumber]

@[simp] theorem mapNumbers_muted (f : Float → Float → Float) (x y : Value) :
    mapNumbers f x.muted y.muted = mapNumbers f x y := by
  rw [mapNumbers, expectNumber_muted, expectNumber_muted, mapNumbers]

end Value

theorem UnaryOp.apply_muted (op : UnaryOp) (x : Value) : op.apply x.muted = op.apply x := by
  cases op <;> exact Value.mapNumber_muted _ x

theorem BinaryOp.apply_muted (op : BinaryOp) (x y : Value) :
    op.apply x.muted y.muted = op.apply x y := by
  cases op <;> exact Value.mapNumbers_muted _ x y

namespace Builtin

@[simp] theorem expectWhole_muted (v : Value) : expectWhole v.muted = expectWhole v := by
  cases v <;> rfl

@[simp] theorem substring_muted (v first last : Value) :
    substring v.muted first.muted last.muted = substring v first last := by
  cases v with
  | text s => simp only [substring, Value.muted.eq_def (.text s), expectWhole_muted]
  | number x => rfl
  | error message => rfl

/-- A function sees of its arguments what it sees without their messages, however many there
are. -/
theorem apply_muted (function : Builtin) (args : List Value) :
    function.apply (args.map Value.muted) = function.apply args := by
  match args with
  | [] => rfl
  | [x] => cases function <;> simp [apply, wrongCount]
  | [x, y] => cases function <;> simp [apply, wrongCount]
  | [x, y, z] => cases function <;> simp [apply, wrongCount]
  | x :: y :: z :: w :: rest => cases function <;> simp [apply, wrongCount]

end Builtin

namespace Expr

variable {e : Expr} {f g lookup : Address → Value}

mutual

/-- Without messages, a formula has the same value when the errors that it reads lose theirs. -/
theorem muted_eval : ∀ (e : Expr),
    (e.eval fun a => (lookup a).muted).muted = (e.eval lookup).muted
  | .number x => by rw [eval, eval]
  | .text s => by rw [eval, eval]
  | .reference a => by rw [eval, eval, Value.muted_muted]
  | .unary op operand => by
    rw [eval, eval, ← op.apply_muted, muted_eval operand, op.apply_muted]
  | .binary op left right => by
    rw [eval, eval, ← op.apply_muted, muted_eval left, muted_eval right, op.apply_muted]
  | .call function args => by
    rw [eval, eval, ← function.apply_muted, muted_evalArgs args, function.apply_muted]
  | .error message => by rw [eval, eval]

theorem muted_evalArgs : ∀ (args : List Expr),
    (evalArgs (fun a => (lookup a).muted) args).map Value.muted =
      (evalArgs lookup args).map Value.muted
  | [] => by rw [evalArgs, evalArgs]
  | arg :: args => by
    rw [evalArgs, evalArgs, List.map_cons, List.map_cons, muted_eval arg, muted_evalArgs args]

end

/-- A formula that is not a bare reference has the same value when the errors that it reads lose
their messages. -/
theorem eval_muted (formula : ∀ a, e ≠ .reference a) :
    (e.eval fun a => (lookup a).muted) = e.eval lookup := by
  cases e with
  | number x => rw [eval, eval]
  | text s => rw [eval, eval]
  | reference a => exact absurd rfl (formula a)
  | unary op operand => rw [eval, eval, ← op.apply_muted, muted_eval, op.apply_muted]
  | binary op left right =>
    rw [eval, eval, ← op.apply_muted, muted_eval, muted_eval, op.apply_muted]
  | call function args =>
    rw [eval, eval, ← function.apply_muted, muted_evalArgs, function.apply_muted]
  | error message => rw [eval, eval]

/-- **Only a bare reference shows the message of an error that it reads**: two look-ups that differ
in messages only give any other formula the same value. -/
theorem eval_of_muted (formula : ∀ a, e ≠ .reference a)
    (h : ∀ a ∈ e.references, (f a).muted = (g a).muted) : e.eval f = e.eval g :=
  calc e.eval f = e.eval fun a => (f a).muted := (eval_muted formula).symm
    _ = e.eval fun a => (g a).muted := eval_congr h
    _ = e.eval g := eval_muted formula

/-- **What a formula makes of a look-up.** It looks at its references and at nothing else. It is an
error if one of them is. And it is the formulas other than bare references whose value, with its
message if it is an error, does not depend on the messages of the errors that they read. -/
theorem eval_lookups (e : Expr) :
    (∀ f g : Address → Value, (∀ a ∈ e.references, f a = g a) → e.eval f = e.eval g) ∧
    (∀ f : Address → Value, (∃ a ∈ e.references, (f a).isError = true) →
      (e.eval f).isError = true) ∧
    ((∀ a, e ≠ .reference a) ↔ ∀ f g : Address → Value,
      (∀ a ∈ e.references, f a = g a ∨ (f a).isError = true ∧ (g a).isError = true) →
        e.eval f = e.eval g) := by
  refine ⟨fun f g => eval_congr, ?_, fun formula f g agree => ?_, ?_⟩
  · rintro f ⟨a, reads, error⟩
    exact isError_eval reads error
  · exact eval_of_muted formula fun a ha => Value.muted_eq_iff.2 (agree a ha)
  · rintro hides a rfl
    -- a bare reference shows which of two messages it reads
    have same := hides (fun _ => .error "") (fun _ => .error "?") fun _ _ => Or.inr ⟨rfl, rfl⟩
    rw [eval, eval] at same
    exact absurd (Value.error.inj same) (by decide)

/-- A sum of an error and a call without its argument: what is elsewhere and what the error says makes
no difference. -/
theorem eval_lookups_sum :
    let e : Expr := .binary .add (.reference ⟨0, 0⟩) (.call .sin [])
    let f : Address → Value := fun a => if a = ⟨0, 0⟩ then .error "one" else .empty
    let f' : Address → Value := fun _ => .error "one"
    let g : Address → Value := fun _ => .error "other"
    ((∀ a ∈ e.references, f a = f' a) ∧ e.eval f = e.eval f') ∧
      ((∃ a ∈ e.references, (f a).isError = true) ∧ (e.eval f).isError = true) ∧
      (∀ a, e ≠ .reference a) ∧
      (∀ a ∈ e.references, f a = g a ∨ (f a).isError = true ∧ (g a).isError = true) ∧
      e.eval f = e.eval g := by
  intro e f f' g
  obtain ⟨reads, strict, hides⟩ := eval_lookups e
  have mem : ∀ {a}, a ∈ e.references ↔ a = ⟨0, 0⟩ := by
    intro a
    simp [e, mem_references, Expr.reads, readsArgs]
  have asked : ∀ a ∈ e.references, f a = .error "one" := fun a ha => if_pos (mem.1 ha)
  have some_error : ∃ a ∈ e.references, (f a).isError = true := ⟨⟨0, 0⟩, mem.2 rfl, rfl⟩
  have no_reference : ∀ a, e ≠ .reference a := by simp [e]
  have agree : ∀ a ∈ e.references, f a = g a ∨ (f a).isError = true ∧ (g a).isError = true :=
    fun a ha => Or.inr ⟨by rw [asked a ha]; rfl, rfl⟩
  exact ⟨⟨asked, reads f f' asked⟩, ⟨some_error, strict f some_error⟩, no_reference, agree,
    hides.1 no_reference f g agree⟩

end Expr

end Spreadsheet
