import Mathlib
import Spreadsheet.Proofs.Formula.Brackets
import Spreadsheet.Proofs.Formula.Building
import Spreadsheet.Sheet.Cell

/-!
# Nothing is lost

An expression has the operands of its tokens, from left to right, and the signs, operators and calls
of its tokens, each as often as it is written (`Expr.ofTokens_conserves`); this holds of every list
of tokens that is accepted, formula or not. The proof follows the two passes of the parser.

* Treating a token puts its item in one place among the items that would be written if all that is
  held back were released, with no operand behind that place (`Postfix.State.inserts_treat`).
  Releasing an entry changes nothing there.
* The items of an expression are its operands and its operations (`Expr.operands_eq`,
  `Expr.operations_perm`).

So a cell reads exactly the references that are written in its text.
-/

namespace Spreadsheet

/-! ## Operands and operations of tokens -/

namespace Token

/-- Whether a token is an operand. -/
def isOperand : Token → Bool
  | .number _ | .text _ | .reference _ => true
  | _ => false

/-- The operation of a token, given the token in front of it: a `+` or `-` is an operator behind the
end of an operand, and a sign elsewhere. -/
def operation? (before : Option Token) : Token → Option Item
  | .name f => some (.call f)
  | .plus => some (if before.any endsOperand then .binary .add else .unary .plus)
  | .minus => some (if before.any endsOperand then .binary .subtract else .unary .negate)
  | .asterisk => some (.binary .multiply)
  | .slash => some (.binary .divide)
  | _ => none

/-- The item of a token, given the token in front of it. Brackets and commas have none. -/
def item? (before : Option Token) : Token → Option Item
  | .number x => some (.number x)
  | .text s => some (.text s)
  | .reference a => some (.reference a)
  | t => t.operation? before

/-- The operations of some tokens, given the token in front of them. -/
def operations (before : Option Token) : List Token → List Item
  | [] => []
  | t :: ts => (t.operation? before).toList ++ operations (some t) ts

/-- Whether a token is a bracket or a comma. -/
def isPunctuation : Token → Bool
  | .leftBracket | .rightBracket | .comma => true
  | _ => false

end Token

/-! ## Operands and operations of expressions -/

namespace Expr

mutual

/-- The tokens of the leaves of an expression, from left to right. -/
def operands : Expr → List Token
  | .number x => [.number x]
  | .text s => [.text s]
  | .reference a => [.reference a]
  | .unary _ operand => operands operand
  | .binary _ left right => operands left ++ operands right
  | .call _ args => operandsArgs args
  | .error _ => []

/-- The tokens of the leaves of the arguments of a call. -/
def operandsArgs : List Expr → List Token
  | [] => []
  | arg :: args => operands arg ++ operandsArgs args

end

mutual

/-- The signs, operators and calls in an expression. -/
def operations : Expr → List Item
  | .number _ | .text _ | .reference _ | .error _ => []
  | .unary op operand => .unary op :: operations operand
  | .binary op left right => .binary op :: (operations left ++ operations right)
  | .call function args => .call function.name :: operationsArgs args

/-- The signs, operators and calls in the arguments of a call. -/
def operationsArgs : List Expr → List Item
  | [] => []
  | arg :: args => operations arg ++ operationsArgs args

end

end Expr

/-! ## Items -/

namespace Item

/-- The token of an item that is an operand. -/
def operand? : Item → Option Token
  | .number x => some (.number x)
  | .text s => some (.text s)
  | .reference a => some (.reference a)
  | _ => none

/-- Whether an item is an operation. -/
def isOperation (item : Item) : Bool := item.operand?.isNone

/-- Every item is an operand or an operation. -/
theorem eq_nil_of_neither {items : List Item} (operands : items.filterMap operand? = [])
    (operations : items.filter isOperation = []) : items = [] := by
  refine List.eq_nil_iff_forall_not_mem.2 fun item listed => ?_
  have none : item.operand? = none := List.filterMap_eq_nil_iff.1 operands item listed
  have some : ¬item.isOperation = true := List.filter_eq_nil_iff.1 operations item listed
  exact some (by rw [isOperation, none]; rfl)

end Item

namespace Expr

variable {a : Address}

mutual

/-- **The operands of an expression** are those among its items. -/
theorem operands_eq : ∀ e : Expr, e.operands = e.items.filterMap Item.operand?
  | .number _ | .text _ | .reference _ | .error _ => rfl
  | .unary op operand => by
    rw [operands, items, List.filterMap_append, operands_eq operand]
    exact (List.append_nil _).symm
  | .binary op left right => by
    rw [operands, items, List.filterMap_append, List.filterMap_append, operands_eq left,
      operands_eq right]
    exact (List.append_nil _).symm
  | .call function args => by
    rw [operands, items, List.filterMap_append, operandsArgs_eq args]
    exact (List.append_nil _).symm

theorem operandsArgs_eq : ∀ args : List Expr,
    operandsArgs args = (itemsArgs args).filterMap Item.operand?
  | [] => rfl
  | arg :: args => by
    rw [operandsArgs, itemsArgs, List.filterMap_append, operands_eq arg, operandsArgs_eq args]

end

mutual

/-- **The operations of an expression** are those among its items, in another order. -/
theorem operations_perm : ∀ e : Expr, e.operations.Perm (e.items.filter Item.isOperation)
  | .number _ | .text _ | .reference _ | .error _ => .refl _
  | .unary op operand => by
    rw [operations, items, List.filter_append]
    exact ((operations_perm operand).cons _).trans (List.perm_append_singleton _ _).symm
  | .binary op left right => by
    rw [operations, items, List.filter_append, List.filter_append]
    have both := (operations_perm left).append (operations_perm right)
    exact (both.cons _).trans (List.perm_append_singleton _ _).symm
  | .call function args => by
    rw [operations, items, List.filter_append]
    exact ((operationsArgs_perm args).cons _).trans (List.perm_append_singleton _ _).symm

theorem operationsArgs_perm : ∀ args : List Expr,
    (operationsArgs args).Perm ((itemsArgs args).filter Item.isOperation)
  | [] => .refl _
  | arg :: args => by
    rw [operationsArgs, itemsArgs, List.filter_append]
    exact (operations_perm arg).append (operationsArgs_perm args)

end

mutual

/-- The references among the operands are the addresses that the expression reads. -/
theorem mem_reads_iff : ∀ e : Expr, a ∈ e.reads ↔ .reference a ∈ e.operands
  | .number _ | .text _ | .error _ => by simp [reads, operands]
  | .reference b => by simp [reads, operands]
  | .unary _ operand => by
    rw [reads, operands]
    exact mem_reads_iff operand
  | .binary _ left right => by
    rw [reads, operands, List.mem_append, List.mem_append, mem_reads_iff left, mem_reads_iff right]
  | .call _ args => by
    rw [reads, operands]
    exact mem_readsArgs_iff args

theorem mem_readsArgs_iff : ∀ args : List Expr,
    a ∈ readsArgs args ↔ .reference a ∈ operandsArgs args
  | [] => by simp [readsArgs, operandsArgs]
  | arg :: args => by
    rw [readsArgs, operandsArgs, List.mem_append, List.mem_append, mem_reads_iff arg,
      mem_readsArgs_iff args]

end

end Expr

/-! ## Putting tokens in postfix order -/

namespace Postfix.State

variable {s s' : State} {t : Token} {before : Option Token}

/-- The items that are written in the end if no more tokens come. -/
def items (s : State) : List Item := s.output.reverse ++ s.pending.filterMap Pending.item?

/-- The items of some tokens, put in a place with no operand behind it. -/
def Inserts (s : State) (new : List Item) (s' : State) : Prop :=
  ∃ front back, s.items = front ++ back ∧ s'.items = front ++ new ++ back ∧
    back.filterMap Item.operand? = []

/-- What is held back are no operands. -/
theorem operands_pending (ps : List Pending) :
    (ps.filterMap Pending.item?).filterMap Item.operand? = [] := by
  rw [List.filterMap_filterMap, List.filterMap_eq_nil_iff]
  intro p _
  cases p <;> rfl

theorem inserts_nil (same : s'.items = s.items) : s.Inserts [] s' :=
  ⟨s.items, [], by simp, by simp [same], rfl⟩

/-- Releasing entries does not change what is written in the end. -/
@[simp] theorem items_releaseWhile (s : State) (p : Pending → Bool) :
    (s.releaseWhile p).items = s.items := by
  have parts := List.takeWhile_append_dropWhile (p := p) (l := s.pending)
  rw [items, items, releaseWhile]
  simp only [List.reverse_append, List.reverse_reverse, List.append_assoc]
  rw [← List.filterMap_append, parts]

/-- An operand goes behind all that has been written. -/
theorem inserts_emit (s : State) (item : Item) : s.Inserts [item] (s.emit item) :=
  ⟨s.output.reverse, s.pending.filterMap Pending.item?, rfl, by simp [items, emit],
    operands_pending s.pending⟩

/-- An operation goes in front of all that is held back. -/
theorem inserts_hold {p : Pending} {item : Item} (s : State) (written : p.item? = some item) :
    s.Inserts [item] (s.hold p) :=
  ⟨s.output.reverse, s.pending.filterMap Pending.item?, rfl, by simp [items, hold, written],
    operands_pending s.pending⟩

theorem inserts_operator {incoming : Pending} {item : Item} (s : State)
    (written : incoming.item? = some item) : s.Inserts [item] (s.operator incoming) := by
  obtain ⟨front, back, old, new, none⟩ :=
    inserts_hold (s.releaseWhile incoming.yieldsTo) written
  rw [items_releaseWhile] at old
  exact ⟨front, back, old, new, none⟩

/-- A closing bracket writes nothing that would not be written in the end. -/
theorem items_close (h : s.close = .ok s') : s'.items = s.items := by
  have released : s.releaseToBracket.items = s.items := s.items_releaseWhile _
  rw [← released]
  unfold close at h
  obtain none | ⟨rest, pending⟩ := s.pending_releaseToBracket
  · simp [none] at h
  · simp only [pending] at h
    split at h
    · cases h
    · rename_i eq
      obtain ⟨rfl, rfl⟩ := List.cons.inj eq
      cases h
      simp [items, pending, List.filterMap_cons, Pending.item?]
    · rename_i eq
      obtain ⟨rfl, rfl⟩ := List.cons.inj eq
      cases h
      simp [items, pending, List.filterMap_cons, Pending.item?]

/-- **A token puts its item in one place**, with no operand behind it. -/
theorem inserts_treat (behind : s.afterOperand = before.any Token.endsOperand)
    (h : s.treat t = .ok s') : s.Inserts (t.item? before).toList s' := by
  cases t with
  | number | text | reference =>
    cases h
    exact inserts_emit s _
  | name f =>
    cases h
    exact inserts_hold s rfl
  | leftBracket =>
    cases h
    exact inserts_nil rfl
  | rightBracket => exact inserts_nil (items_close h)
  | comma =>
    cases h
    exact inserts_nil (items_releaseWhile s _)
  | plus | minus =>
    cases h
    refine inserts_operator s ?_
    rw [behind]
    split <;> rfl
  | asterisk | slash =>
    cases h
    exact inserts_operator s rfl

namespace Inserts

variable {new : List Item}

/-- The operands are in the order in which they come. -/
theorem operands (h : s.Inserts new s') : s'.items.filterMap Item.operand? =
    s.items.filterMap Item.operand? ++ new.filterMap Item.operand? := by
  obtain ⟨front, back, old, now, none⟩ := h
  rw [old, now]
  simp [none]

theorem operations (h : s.Inserts new s') : (s'.items.filter Item.isOperation).Perm
    (s.items.filter Item.isOperation ++ new.filter Item.isOperation) := by
  obtain ⟨front, back, old, now, -⟩ := h
  rw [old, now]
  simp only [List.filter_append, List.append_assoc]
  exact List.perm_append_comm.append_left _

end Inserts

end Postfix.State

namespace Token

theorem operands_item? (before : Option Token) (t : Token) :
    (t.item? before).toList.filterMap Item.operand? = [t].filter isOperand := by
  cases t with
  | plus | minus =>
    simp only [item?, operation?]
    split <;> rfl
  | _ => rfl

theorem operations_item? (before : Option Token) (t : Token) :
    (t.item? before).toList.filter Item.isOperation = (t.operation? before).toList := by
  cases t with
  | plus | minus =>
    simp only [item?, operation?]
    split <;> rfl
  | _ => rfl

end Token

namespace Postfix

variable {s s' : State} {ts : List Token} {items : List Item}

/-- **Tokens put their items in place**: the operands in their order, the operations in some
order. -/
theorem State.items_foldlM (before : Option Token) (behind : s.afterOperand = before.any Token.endsOperand)
    (h : ts.foldlM State.step s = .ok s') :
    s'.items.filterMap Item.operand? =
        s.items.filterMap Item.operand? ++ ts.filter Token.isOperand ∧
      (s'.items.filter Item.isOperation).Perm
        (s.items.filter Item.isOperation ++ Token.operations before ts) := by
  induction ts generalizing s before with
  | nil =>
    cases h
    simp [Token.operations]
  | cons t ts ih =>
    rw [List.foldlM_cons] at h
    cases treated : s.treat t with
    | error e =>
      rw [State.step, treated] at h
      cases h
    | ok s₁ =>
      rw [State.step, treated] at h
      have inserts := State.inserts_treat behind treated
      obtain ⟨operands, operations⟩ := ih (some t) rfl h
      constructor
      · refine operands.trans ?_
        rw [← List.singleton_append (l := ts), List.filter_append, ← List.append_assoc,
          ← Token.operands_item? before, ← inserts.operands]
        rfl
      · refine operations.trans ?_
        rw [Token.operations, ← List.append_assoc, ← Token.operations_item?]
        exact inserts.operations.append_right _

/-- The postfix order of some tokens has their operands in their order, and their operations. -/
theorem items_ofTokens (h : ofTokens ts = .ok items) :
    items.filterMap Item.operand? = ts.filter Token.isOperand ∧
      (items.filter Item.isOperation).Perm (Token.operations none ts) := by
  unfold ofTokens at h
  split at h
  · cases h
  · rename_i s run
    unfold State.finish at h
    split at h
    · cases h
    · cases h
      exact State.items_foldlM none rfl run

end Postfix

/-! ## Accepted tokens -/

namespace Token

variable {ts : List Token}

/-- Brackets and commas are the tokens without an item. -/
theorem all_isPunctuation_iff (before : Option Token) : ts.all isPunctuation = true ↔
    ts.filter isOperand = [] ∧ operations before ts = [] := by
  induction ts generalizing before with
  | nil => simp [operations]
  | cons t ts ih =>
    rw [List.all_cons, Bool.and_eq_true, ih (some t), operations,
      ← List.singleton_append, List.filter_append, List.append_eq_nil_iff, List.append_eq_nil_iff,
      and_and_and_comm]
    cases t <;> simp [isPunctuation, isOperand, operation?]

end Token

namespace Expr

variable {ts : List Token} {e : Expr} {text : String} {a : Address}

theorem items_ne_nil (proper : e.Proper) : e.items ≠ [] := by
  cases e with
  | error message => exact absurd proper (by rw [Proper]; exact id)
  | _ => simp [items]

/-- **What is accepted** has the operands and the operations of its tokens; without any of them it
is the empty text. -/
theorem conserves_of_ofTokens (h : ofTokens ts = .ok e) :
    if ts.all Token.isPunctuation then e = .text ""
    else e.operands = ts.filter Token.isOperand ∧
      e.operations.Perm (Token.operations none ts) := by
  unfold ofTokens at h
  split at h
  · cases h
  · rename_i items written
    obtain ⟨operands, operations⟩ := Postfix.items_ofTokens written
    rcases ofItems_eq_ok_iff.1 h with ⟨rfl, rfl⟩ | ⟨proper, -, rfl⟩
    · rw [if_pos ((Token.all_isPunctuation_iff _).2 ⟨operands.symm, operations.nil_eq.symm⟩)]
    · -- every expression has an item, and an item comes from a token that is no bracket or comma
      have some : ¬ts.all Token.isPunctuation = true := by
        intro none
        obtain ⟨no_operands, no_operations⟩ := (Token.all_isPunctuation_iff .none).1 none
        rw [no_operands] at operands
        rw [no_operations] at operations
        exact items_ne_nil proper (Item.eq_nil_of_neither operands operations.eq_nil)
      rw [if_neg some, operands_eq, operands]
      exact ⟨rfl, (operations_perm e).trans operations⟩

/-- The references of what is accepted are those among its tokens. -/
theorem mem_references_iff_of_ofTokens (h : ofTokens ts = .ok e) :
    a ∈ e.references ↔ .reference a ∈ ts := by
  have conserves := conserves_of_ofTokens h
  rw [mem_references, mem_reads_iff]
  split at conserves
  · rename_i punctuation
    subst conserves
    constructor
    · intro read
      cases List.mem_singleton.1 read
    · intro written
      cases List.all_eq_true.1 punctuation _ written
  · rw [conserves.1, List.mem_filter]
    exact and_iff_left rfl

/-- The cell of a text that is accepted has the expression of its tokens. -/
theorem exists_tokens_of_ofText? (h : ofText? text = .ok e) :
    ∃ ts, tokenize text = .ok ts ∧ ofTokens ts = .ok e := by
  unfold ofText? at h
  split at h
  · cases h
  · rename_i ts read
    exact ⟨ts, read, h⟩

/-- **Parsing conserves what is written.** An accepted list of tokens, in a formula's order or not,
has an expression with the same operands from left to right, and with the same signs, operators and
calls, each as many times; only brackets and commas are the empty text. The cell of an accepted
text reads the references among its tokens, in the order of addresses. -/
theorem ofTokens_conserves :
    (∀ ts e, ofTokens ts = .ok e →
      if ts.all Token.isPunctuation then e = .text ""
      else e.operands = ts.filter Token.isOperand ∧
        e.operations.Perm (Token.operations none ts)) ∧
    ∀ text e, ofText? text = .ok e →
      ∃ ts, tokenize text = .ok ts ∧ ofTokens ts = .ok e ∧ (Cell.ofText text).expr = e ∧
        (Cell.ofText text).references.toList.Pairwise (compare · · = .lt) ∧
        ∀ a, a ∈ (Cell.ofText text).references.toList ↔ .reference a ∈ ts := by
  refine ⟨fun ts e => conserves_of_ofTokens, fun text e parsed => ?_⟩
  obtain ⟨ts, read, accepted⟩ := exists_tokens_of_ofText? parsed
  have expr : (Cell.ofText text).expr = e := by
    rw [Cell.ofText, ofText, parsed]
  refine ⟨ts, read, accepted, expr, Std.ExtTreeSet.ordered_toList, fun a => ?_⟩
  rw [Std.ExtTreeSet.mem_toList, ← mem_references_iff_of_ofTokens accepted, ← expr]
  rfl

/-- The second argument of `max` stands in the brackets of `sin`: no formula, but accepted. -/
theorem ofTokens_conserves_misplaced :
    let ts : List Token := [.name "max", .leftBracket, .name "sin", .leftBracket, .reference ⟨1, 0⟩,
      .comma, .reference ⟨0, 0⟩, .rightBracket, .rightBracket]
    let e : Expr := .call .max [.reference ⟨1, 0⟩, .call .sin [.reference ⟨0, 0⟩]]
    ofTokens ts = .ok e ∧ e.operands = ts.filter Token.isOperand ∧
      e.operations.Perm (Token.operations none ts) ∧
      ofText? "=max(sin(A2,A1))" = .ok e ∧
      ∀ a, a ∈ (Cell.ofText "=max(sin(A2,A1))").references.toList ↔ .reference a ∈ ts := by
  intro ts e
  have accepted : ofTokens ts = .ok e := rfl
  have read : tokenize "=max(sin(A2,A1))" = .ok ts := by
    unfold ts
    cbv
  have parsed : ofText? "=max(sin(A2,A1))" = .ok e := by
    rw [ofText?, read]
    exact accepted
  have conserves := ofTokens_conserves.1 ts e accepted
  rw [if_neg (by decide)] at conserves
  obtain ⟨ts', read', -, -, -, references⟩ := ofTokens_conserves.2 _ e parsed
  cases read.symm.trans read'
  exact ⟨accepted, conserves.1, conserves.2, parsed, references⟩

end Expr

end Spreadsheet
