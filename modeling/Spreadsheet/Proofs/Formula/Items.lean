import Spreadsheet.Proofs.Formula.Building
import Spreadsheet.Proofs.Formula.Grammar

/-!
# The items of a formula

The postfix order of a formula, whatever its names and its numbers of arguments are
(`Formula.ofTokens_tokens`). Operands and operators are put in the order of their precedence, and a
sign follows its operand; but a sign that is followed by another sign is released by it, and so it
is written in front of the operand (`Operand.items`). So a formula gives the expression that has
these items, if there is one (`Formula.ofTokens_eq_ok_iff`).
-/

namespace Spreadsheet

/-! ## Postfix order -/

/-- An operator behind its operands. -/
def BinaryOp.behind (op : BinaryOp) (left right : List Item) : List Item :=
  left ++ right ++ [.binary op]

/-- Whether an operand starts with a sign. -/
def Operand.isSigned : Operand → Bool
  | .signed _ _ => true
  | _ => false

mutual

/-- The items of an operand. -/
def Operand.items : Operand → List Item
  | .number x => [.number x]
  | .text s => [.text s]
  | .reference a => [.reference a]
  | .signed op x => if x.isSigned then .unary op :: x.items else x.items ++ [.unary op]
  | .bracketed e => e.groupedItems.whole BinaryOp.behind
  | .call name args => Formula.argItems args ++ [.call name]

/-- The items of the operands of a formula, grouped. -/
def Formula.groupedItems : Formula → Grouped (List Item)
  | .operand x => ⟨none, x.items⟩
  | .binary left op right => left.groupedItems.push BinaryOp.behind op right.items

/-- The items of some formulas. -/
def Formula.argItems : List Formula → List Item
  | [] => []
  | e :: es => e.groupedItems.whole BinaryOp.behind ++ Formula.argItems es

end

/-- The items of a formula. -/
def Formula.items (e : Formula) : List Item := e.groupedItems.whole BinaryOp.behind

/-- One more operand is written with its operator, in front of the operator of a sum or behind
it. -/
theorem Grouped.whole_push_perm (g : Grouped (List Item)) (op : BinaryOp) (x : List Item) :
    ((g.push BinaryOp.behind op x).whole BinaryOp.behind).Perm
      (g.whole BinaryOp.behind ++ (x ++ [.binary op])) := by
  obtain ⟨sum, product⟩ := g
  by_cases level : op.level = 1
  · rw [push, if_pos level]
    simp [whole, BinaryOp.behind]
  · rw [push, if_neg level]
    cases sum with
    | none => simp [whole, BinaryOp.behind]
    | some sum =>
      obtain ⟨left, op'⟩ := sum
      have swap : ((x ++ [Item.binary op]) ++ [Item.binary op']).Perm
          ([Item.binary op'] ++ (x ++ [Item.binary op])) := List.perm_append_comm
      simpa [whole, BinaryOp.behind] using swap.append_left (left ++ product)

theorem Formula.items_binary_perm (left : Formula) (op : BinaryOp) (right : Operand) :
    (binary left op right).items.Perm (left.items ++ (right.items ++ [.binary op])) := by
  rw [items, groupedItems]
  exact left.groupedItems.whole_push_perm op right.items

mutual

theorem Operand.items_ne_nil : ∀ x : Operand, x.items ≠ []
  | .number _ => by simp [Operand.items]
  | .text _ => by simp [Operand.items]
  | .reference _ => by simp [Operand.items]
  | .signed op x => by
    rw [Operand.items]
    split <;> simp
  | .bracketed e => by
    rw [Operand.items]
    exact Formula.items_ne_nil e
  | .call name args => by simp [Operand.items]

theorem Formula.items_ne_nil : ∀ e : Formula, e.items ≠ []
  | .operand x => by
    rw [Formula.items, Formula.groupedItems]
    exact Operand.items_ne_nil x
  | .binary left op right => by
    intro empty
    have perm := Formula.items_binary_perm left op right
    rw [empty] at perm
    simpa using perm.nil_eq

end

/-! ## Reading a row of operands -/

namespace Postfix.State

variable {s : State} {items items' : List Item} {ts us : List Token}

/-- Releasing an entry that has the property writes it. -/
theorem releaseWhile_cons {p : Pending → Bool} {q : Pending} {item : Item} {rest : List Pending}
    {out : List Item} {front : Bool} (released : p q = true) (written : q.item? = some item) :
    releaseWhile ⟨q :: rest, out, front⟩ p = releaseWhile ⟨rest, item :: out, front⟩ p := by
  simp [releaseWhile, released, written]

/-- A sign is released by a sign behind it. -/
theorem step_sign_again (s : State) (op op' : UnaryOp) :
    State.step ⟨.unary op :: s.pending, s.output, false⟩ op'.token =
      State.step ⟨s.pending, .unary op :: s.output, false⟩ op'.token := by
  have released : (Pending.unary op').yieldsTo (.unary op) = true := by
    cases op <;> cases op' <;> rfl
  have same : State.operator ⟨.unary op :: s.pending, s.output, false⟩ (.unary op') =
      State.operator ⟨s.pending, .unary op :: s.output, false⟩ (.unary op') := by
    rw [State.operator, State.operator, releaseWhile_cons released rfl]
  cases op' <;> simp [State.step, treat, UnaryOp.token, same]

/-- A sign in front of another sign. -/
theorem Spells.signed_again {op op' : UnaryOp}
    (h : Spells (Pending.unary op).precedence items (op'.token :: ts)) :
    Spells (Pending.unary op).precedence (.unary op :: items) (op.token :: op'.token :: ts) := by
  intro s waits
  obtain ⟨s', runs, holds, behind⟩ := h ⟨s.pending, .unary op :: s.output, false⟩ ⟨rfl, waits.top⟩
  have runs' : Runs ⟨.unary op :: s.pending, s.output, false⟩ (op'.token :: ts) s' := by
    rw [Runs, List.foldlM_cons, step_sign_again]
    exact runs
  refine ⟨s', Runs.cons waits.step_sign runs', ?_, behind⟩
  rw [List.reverse_cons, List.append_assoc]
  exact holds

/-- The tokens are read as a row of operands that is grouped in this way. -/
inductive SpellsGroup : Grouped (List Item) → List Token → Prop
  | product {product : List Item} {ts : List Token} (h : Spells 6 product ts) :
    SpellsGroup ⟨none, product⟩ ts
  | sum {left product : List Item} {op : BinaryOp} {ts us : List Token} (level : op.level = 1)
    (front : Spells 4 left ts) (back : Spells 6 product us) :
    SpellsGroup ⟨some (left, op), product⟩ (ts ++ op.token :: us)

/-- A product, or a product behind a sum, is read as one operand. -/
theorem SpellsGroup.whole {g : Grouped (List Item)} (h : SpellsGroup g ts) :
    Spells 4 (g.whole BinaryOp.behind) ts := by
  cases h with
  | product h => exact h.mono (by omega)
  | @sum left product op ts us level front back =>
    have precedence : (Pending.binary op).precedence = 4 := by rw [Expr.precedence_binary, level]
    have spells : Spells (Pending.binary op).precedence (op.behind left product)
        (ts ++ op.token :: us) := by
      refine Spells.binary ?_ (back.mono (by omega))
      rw [precedence]
      exact front
    rw [precedence] at spells
    exact spells

/-- One more operand, after an operator. -/
theorem SpellsGroup.push {g : Grouped (List Item)} {op : BinaryOp} (h : SpellsGroup g ts)
    (right : Spells 8 items us) :
    SpellsGroup (g.push BinaryOp.behind op items) (ts ++ op.token :: us) := by
  by_cases level : op.level = 1
  · rw [Grouped.push, if_pos level]
    exact .sum level h.whole (right.mono (by omega))
  · have precedence : (Pending.binary op).precedence = 6 := by
      have two : op.level = 2 := by cases op <;> first | rfl | exact absurd rfl level
      rw [Expr.precedence_binary, two]
    have extend : ∀ {product : List Item} {back : List Token}, Spells 6 product back →
        Spells 6 (op.behind product items) (back ++ op.token :: us) := by
      intro product back h
      have spells : Spells (Pending.binary op).precedence (op.behind product items)
          (back ++ op.token :: us) := by
        refine Spells.binary ?_ (right.mono (by omega))
        rw [precedence]
        exact h
      rw [precedence] at spells
      exact spells
    rw [Grouped.push, if_neg level]
    cases h with
    | product h => exact .product (extend h)
    | sum sum front back =>
      rw [List.append_assoc, List.cons_append]
      exact .sum sum front (extend back)

end Postfix.State

/-! ## Reading a formula -/

open Postfix Postfix.State

/-- The level of an operand: that of a sign in front of it, if there is one. -/
def Operand.level (x : Operand) : Nat := if x.isSigned then 8 else atomLevel

theorem Operand.sign_le_level (x : Operand) : 8 ≤ x.level := by
  unfold level
  split <;> simp [atomLevel]

mutual

/-- **The tokens of an operand are read as an operand with its items.** -/
theorem Operand.spells : ∀ x : Operand, Spells x.level x.items x.tokens
  | .number x => by
    rw [Operand.items, Operand.tokens]
    exact spells_leaf (fun _ => rfl) rfl
  | .text s => by
    rw [Operand.items, Operand.tokens]
    exact spells_leaf (fun _ => rfl) rfl
  | .reference a => by
    rw [Operand.items, Operand.tokens]
    exact spells_leaf (fun _ => rfl) rfl
  | .signed op x => by
    have spells := Operand.spells x
    rw [Operand.items, Operand.tokens]
    cases signed : x.isSigned with
    | true =>
      obtain ⟨op', y, rfl⟩ : ∃ op' y, x = .signed op' y := by
        cases x <;> first | exact ⟨_, _, rfl⟩ | cases signed
      rw [Operand.tokens] at spells ⊢
      exact spells.signed_again
    | false =>
      rw [Operand.level, signed] at spells
      exact spells.signed
  | .bracketed e => by
    rw [Operand.items, Operand.tokens]
    exact (Formula.spellsGroup e).whole.bracket
  | .call name args => by
    rw [Operand.items, Operand.tokens]
    exact (Formula.spells_argTokens args).call

/-- The tokens of a formula are read as a row of operands. -/
theorem Formula.spellsGroup : ∀ e : Formula, SpellsGroup e.groupedItems e.tokens
  | .operand x => by
    rw [Formula.groupedItems, Formula.tokens]
    exact .product ((Operand.spells x).mono (Nat.le_trans (by omega) x.sign_le_level))
  | .binary left op right => by
    rw [Formula.groupedItems, Formula.tokens]
    exact (Formula.spellsGroup left).push ((Operand.spells right).mono right.sign_le_level)

theorem Formula.spells_argTokens : ∀ es : List Formula,
    SpellsArgs 0 (Formula.argItems es) (Formula.argTokens es)
  | [] => by
    rw [Formula.argItems, Formula.argTokens]
    exact spellsArgs_nil 0
  | e :: es => by
    rw [Formula.argItems, Formula.argTokens]
    exact SpellsArgs.cons (Formula.spellsGroup e).whole (Formula.spells_moreTokens es 0)

theorem Formula.spells_moreTokens : ∀ (es : List Formula) (i : Nat),
    SpellsArgs (i + 1) (Formula.argItems es) (Formula.moreTokens es)
  | [], i => by
    rw [Formula.argItems, Formula.moreTokens]
    exact spellsArgs_nil (i + 1)
  | e :: es, i => by
    rw [Formula.argItems, Formula.moreTokens]
    exact SpellsArgs.cons (Formula.spellsGroup e).whole (Formula.spells_moreTokens es (i + 1))

end

/-- **Postfix order**: the tokens of a formula give its items. -/
theorem Formula.ofTokens_tokens (e : Formula) : Postfix.ofTokens e.tokens = .ok e.items :=
  (Formula.spellsGroup e).whole.ofTokens

/-- **A formula gives an expression** exactly if the expression has the items of the formula, is
proper and is not nested too deep. -/
theorem Formula.ofTokens_eq_ok_iff {e : Formula} {tree : Expr} : Expr.ofTokens e.tokens = .ok tree ↔
    tree.Proper ∧ tree.depth ≤ Expr.depthLimit ∧ tree.items = e.items := by
  rw [Expr.ofTokens, Formula.ofTokens_tokens]
  dsimp only
  rw [Expr.ofItems_eq_ok_iff]
  constructor
  · rintro (⟨empty, -⟩ | expression)
    · exact absurd empty e.items_ne_nil
    · exact expression
  · intro expression
    exact Or.inr expression

end Spreadsheet
