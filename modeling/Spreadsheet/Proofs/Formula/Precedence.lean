import Spreadsheet.Proofs.Formula.Spelling

/-!
# Parsing respects precedence

The tokens of an expression parse to the expression, however many redundant brackets they hold
(`Expr.ofTokens_spelled`). The proof follows the two passes of the parser.

* Putting the tokens in postfix order gives the items of the expression (`items_of_spelled`). While
  an operand is read, some of its operators may still be held back above what was held before it;
  they bind at least as tightly as the operand's own operator (`State.Holds`), so the next operator
  outside of the operand releases all of them and nothing below.
* Building the items gives the expression, or the error for a deep nesting if it is too deep
  (`build_items`).
-/

namespace Spreadsheet

/-! ## Items of an expression -/

namespace Expr

mutual

/-- An expression in postfix order. -/
def items : Expr → List Item
  | .number x => [.number x]
  | .text s => [.text s]
  | .reference a => [.reference a]
  | .unary op operand => items operand ++ [.unary op]
  | .binary op left right => items left ++ items right ++ [.binary op]
  | .call function args => itemsArgs args ++ [.call function.name]
  | .error _ => []

/-- The arguments of a call in postfix order. -/
def itemsArgs : List Expr → List Item
  | [] => []
  | arg :: args => items arg ++ itemsArgs args

end

end Expr

/-! ## States of the first pass -/

namespace Postfix.State

variable {s s' : State} {ts us : List Token} {rest : List Pending} {out items : List Item}
  {level : Nat}

/-- Treating some tokens leads from one state to another. -/
def Runs (s : State) (ts : List Token) (s' : State) : Prop := ts.foldlM step s = .ok s'

theorem Runs.nil (s : State) : s.Runs [] s := rfl

theorem Runs.cons {t : Token} {s₁ : State} (first : s.step t = .ok s₁) (h : s₁.Runs ts s') :
    s.Runs (t :: ts) s' := by
  rw [Runs, List.foldlM_cons, first]
  exact h

theorem Runs.append {s₁ : State} (h : s.Runs ts s₁) (h' : s₁.Runs us s') :
    s.Runs (ts ++ us) s' := by
  rw [Runs, List.foldlM_append, h]
  exact h'

/-- The state holds operators back above `rest`, each binding at least as tightly as `level`; when
they are released, `out` is written. -/
def Holds (level : Nat) (rest : List Pending) (out : List Item) (s : State) : Prop :=
  ∃ held : List Pending, s.pending = held ++ rest ∧
    (∀ p ∈ held, p.isBracket = false ∧ level ≤ p.precedence) ∧
    (held.filterMap Pending.item?).reverse ++ s.output = out

/-- The level of an operand that holds no operator outside of brackets: above all operators, and
below the name of a function. -/
def atomLevel : Nat := 9

namespace Holds

theorem base (s : State) : s.Holds level s.pending s.output :=
  ⟨[], rfl, fun _ hp => absurd hp List.not_mem_nil, rfl⟩

theorem mono {level' : Nat} (h : s.Holds level rest out) (le : level' ≤ level) :
    s.Holds level' rest out := by
  obtain ⟨held, pending, binds, output⟩ := h
  exact ⟨held, pending, fun p hp => ⟨(binds p hp).1, Nat.le_trans le (binds p hp).2⟩, output⟩

/-- The first entry below is an operator that is held back too. -/
theorem snoc {level' : Nat} {p : Pending} {item : Item} (h : s.Holds level (p :: rest) out)
    (le : level' ≤ level) (operator : p.isBracket = false ∧ level' ≤ p.precedence)
    (written : p.item? = some item) : s.Holds level' rest (item :: out) := by
  obtain ⟨held, pending, binds, output⟩ := h.mono le
  refine ⟨held ++ [p], by simp [pending], fun q hq => ?_, ?_⟩
  · rcases List.mem_append.1 hq with hq | hq
    · exact binds q hq
    · exact List.mem_singleton.1 hq ▸ operator
  · simp [written, ← output]

/-- Releasing all that is held back, and nothing below it. -/
theorem release {p : Pending → Bool} (h : s.Holds level rest out)
    (all : ∀ q : Pending, q.isBracket = false → level ≤ q.precedence → p q = true)
    (stop : ∀ q ∈ rest.head?, p q = false) :
    s.releaseWhile p = ⟨rest, out, s.afterOperand⟩ := by
  obtain ⟨held, pending, binds, output⟩ := h
  have held_all : ∀ q ∈ held, p q = true := fun q hq => all q (binds q hq).1 (binds q hq).2
  have none_taken : rest.takeWhile p = [] := by
    cases rest with
    | nil => rfl
    | cons q rest => rw [List.takeWhile_cons, if_neg (by simp [stop q rfl])]
  have none_dropped : rest.dropWhile p = rest := by
    cases rest with
    | nil => rfl
    | cons q rest => rw [List.dropWhile_cons, if_neg (by simp [stop q rfl])]
  rw [releaseWhile, pending, List.takeWhile_append_of_pos held_all,
    List.dropWhile_append_of_pos held_all, none_taken, none_dropped, List.append_nil, output]

/-- At an open bracket, all that is held back is released. -/
theorem releaseToBracket (h : s.Holds level (.leftBracket :: rest) out) :
    s.releaseToBracket = ⟨.leftBracket :: rest, out, s.afterOperand⟩ :=
  h.release (fun q hq _ => by simp [hq]) fun q hq => by
    obtain rfl : Pending.leftBracket = q := Option.some.inj hq
    rfl

/-- The partner of an open bracket that no name stands in front of. -/
theorem close (h : s.Holds level (.leftBracket :: rest) out)
    (top : ∀ p ∈ rest.head?, p.isBracket = true ∨ p.precedence < atomLevel) :
    s.close = .ok ⟨rest, out, s.afterOperand⟩ := by
  rw [State.close, h.releaseToBracket]
  dsimp only
  split
  · rename_i none
    cases none
  · rename_i bracket name rest' pending
    obtain ⟨-, rfl⟩ := List.cons.inj pending
    rcases top (.call name) rfl with bracket | loose
    · cases bracket
    · exact absurd loose (by simp [Pending.precedence, atomLevel])
  · rename_i pending
    obtain ⟨-, rfl⟩ := List.cons.inj pending
    rfl

/-- The partner of the bracket behind a name releases the call. -/
theorem close_call {name : String} (h : s.Holds level (.leftBracket :: .call name :: rest) out) :
    s.close = .ok ⟨rest, .call name :: out, s.afterOperand⟩ := by
  rw [State.close, h.releaseToBracket]

/-- An operator releases what binds at least as tightly, and nothing below it. -/
theorem operator {incoming : Pending} (h : s.Holds incoming.precedence rest out)
    (top : ∀ p ∈ rest.head?, p.isBracket = true ∨ p.precedence < incoming.precedence) :
    s.operator incoming = ⟨incoming :: rest, out, s.afterOperand⟩ := by
  rw [State.operator, h.release (fun q hq tight => by simp [Pending.yieldsTo, hq, tight]) fun q hq => ?_]
  · rfl
  · rcases top q hq with bracket | loose
    · simp [Pending.yieldsTo, bracket]
    · simp [Pending.yieldsTo, loose]

/-- At the end, all that is held back is written. -/
theorem finish (h : s.Holds level [] out) : s.finish = .ok out.reverse := by
  obtain ⟨held, pending, binds, output⟩ := h
  have closed : s.pending.any Pending.isBracket = false := by
    rw [pending, List.append_nil, List.any_eq_false]
    exact fun p hp => by simp [(binds p hp).1]
  rw [State.finish, closed, ← output, pending]
  simp

end Holds

/-! ## Reading an operand -/

/-- An operand is expected, and what was held back last is a bracket or binds less than `level`. -/
structure Waits (level : Nat) (s : State) : Prop where
  front : s.afterOperand = false
  top : ∀ p ∈ s.pending.head?, p.isBracket = true ∨ p.precedence < level

/-- Where an operand is expected, the tokens are read as an operand with the given items; the
operators that are held back of it bind at least as tightly as `level`. -/
def Spells (level : Nat) (items : List Item) (ts : List Token) : Prop :=
  ∀ s : State, s.Waits level →
    ∃ s', s.Runs ts s' ∧ s'.Holds level s.pending (items.reverse ++ s.output) ∧
      s'.afterOperand = true

theorem Spells.mono {level' : Nat} (h : Spells level items ts) (le : level' ≤ level) :
    Spells level' items ts := by
  intro s waits
  obtain ⟨s', runs, holds, behind⟩ := h s
    ⟨waits.front, fun p hp => (waits.top p hp).imp id fun lt => Nat.lt_of_lt_of_le lt le⟩
  exact ⟨s', runs, holds.mono le, behind⟩

theorem waits_bracket : Waits level ⟨.leftBracket :: rest, out, false⟩ :=
  ⟨rfl, fun p hp => Or.inl (by obtain rfl := Option.some.inj hp; rfl)⟩

/-- A token that is an operand on its own. -/
theorem spells_leaf {t : Token} {item : Item} (treat : ∀ s : State, s.treat t = .ok (s.emit item))
    (behind : t.endsOperand = true) : Spells atomLevel [item] [t] := by
  intro s _
  have step : s.step t = .ok { s.emit item with afterOperand := true } := by
    rw [State.step, treat, behind]
    rfl
  exact ⟨_, Runs.cons step (Runs.nil _), Holds.base _, rfl⟩

/-- A sign in front of an operand is held back. -/
theorem Waits.step_sign {op : UnaryOp} (waits : s.Waits (Pending.unary op).precedence) :
    s.step op.token = .ok ⟨.unary op :: s.pending, s.output, false⟩ := by
  have held : s.operator (.unary op) = ⟨.unary op :: s.pending, s.output, s.afterOperand⟩ :=
    (Holds.base s).operator waits.top
  cases op <;> simp [State.step, treat, UnaryOp.token, waits.front, held, Token.endsOperand,
    Except.map]

/-- A sign in front of an operand without operators. -/
theorem Spells.signed {op : UnaryOp} (h : Spells atomLevel items ts) :
    Spells (Pending.unary op).precedence (items ++ [.unary op]) (op.token :: ts) := by
  intro s waits
  obtain ⟨s', runs, holds, behind⟩ := h ⟨.unary op :: s.pending, s.output, false⟩
    ⟨rfl, fun p hp => Or.inr (by obtain rfl := Option.some.inj hp; exact Nat.lt_succ_self 8)⟩
  refine ⟨s', Runs.cons waits.step_sign runs, ?_, behind⟩
  rw [List.reverse_append, List.append_assoc]
  exact holds.snoc (Nat.le_succ 8) ⟨rfl, Nat.le_refl _⟩ rfl

/-- An operator between two operands, the right one of which binds tighter. -/
theorem Spells.binary {op : BinaryOp} {items' : List Item}
    (left : Spells (Pending.binary op).precedence items ts)
    (right : Spells ((Pending.binary op).precedence + 1) items' us) :
    Spells (Pending.binary op).precedence (items ++ items' ++ [.binary op])
      (ts ++ op.token :: us) := by
  intro s waits
  obtain ⟨s₁, runs, holds, behind⟩ := left s waits
  -- the operator releases what is left of the left operand, and stays below the right one
  have held := holds.operator waits.top
  have step : s₁.step op.token =
      .ok ⟨.binary op :: s.pending, items.reverse ++ s.output, false⟩ := by
    cases op <;> simp [State.step, treat, BinaryOp.token, behind, held, Token.endsOperand,
      Except.map]
  obtain ⟨s₂, runs', holds', behind'⟩ := right ⟨.binary op :: s.pending, _, false⟩
    ⟨rfl, fun p hp => Or.inr (by obtain rfl := Option.some.inj hp; exact Nat.lt_succ_self _)⟩
  refine ⟨s₂, runs.append (Runs.cons step runs'), ?_, behind'⟩
  simp only [List.reverse_append, List.append_assoc]
  exact holds'.snoc (Nat.le_succ _) ⟨rfl, Nat.le_refl _⟩ rfl

/-- Brackets hide the operators of an operand. -/
theorem Spells.bracket (h : Spells level items ts) :
    Spells atomLevel items (.leftBracket :: (ts ++ [.rightBracket])) := by
  intro s waits
  have opened : s.step .leftBracket = .ok ⟨.leftBracket :: s.pending, s.output, false⟩ := rfl
  obtain ⟨s', runs, holds, -⟩ := h ⟨.leftBracket :: s.pending, s.output, false⟩ waits_bracket
  have closed : s'.step .rightBracket = .ok ⟨s.pending, items.reverse ++ s.output, true⟩ := by
    rw [State.step, treat, holds.close waits.top]
    rfl
  refine ⟨_, Runs.cons opened (runs.append (Runs.cons closed (Runs.nil _))), ?_, rfl⟩
  exact Holds.base ⟨s.pending, items.reverse ++ s.output, true⟩

/-- An operand in some pairs of brackets, at least one if its own operator does not bind tightly
enough. -/
theorem Spells.enclose {needed n : Nat} (h : Spells level items ts) (le : needed ≤ atomLevel)
    (bare : n = 0 → needed ≤ level) : Spells needed items (Expr.enclose n ts) := by
  cases n with
  | zero => exact h.mono (bare rfl)
  | succ n =>
    refine Spells.mono ?_ le
    induction n with
    | zero => exact h.bracket
    | succ n ih => exact Spells.bracket (ih fun eq => absurd eq (Nat.succ_ne_zero _))

/-- Tokens that are read as an operand make a formula. -/
theorem Spells.ofTokens (h : Spells level items ts) : Postfix.ofTokens ts = .ok items := by
  obtain ⟨s, runs, holds, -⟩ := h start ⟨rfl, fun _ hp => by cases hp⟩
  rw [Postfix.ofTokens, runs]
  exact holds.finish.trans (by simp [start])

/-! ## Reading arguments -/

/-- Behind an open bracket, the tokens are read as the arguments of a call from place `i` on. -/
def SpellsArgs (i : Nat) (items : List Item) (ts : List Token) : Prop :=
  ∀ (s : State) (rest : List Pending) (out : List Item), s.Holds 0 (.leftBracket :: rest) out →
    (i = 0 → s = ⟨.leftBracket :: rest, out, false⟩) →
    ∃ s', s.Runs ts s' ∧ s'.Holds 0 (.leftBracket :: rest) (items.reverse ++ out)

theorem spellsArgs_nil (i : Nat) : SpellsArgs i [] [] := fun s _ _ holds _ =>
  ⟨s, Runs.nil s, holds⟩

/-- A comma releases what is held back of the argument in front of it. -/
theorem SpellsArgs.cons {i : Nat} {items' : List Item} (first : Spells level items ts)
    (others : SpellsArgs (i + 1) items' us) :
    SpellsArgs i (items ++ items') ((if i = 0 then [] else [.comma]) ++ ts ++ us) := by
  intro s rest out holds start
  have separated : s.Runs (if i = 0 then [] else [.comma]) ⟨.leftBracket :: rest, out, false⟩ := by
    split
    · rename_i eq
      exact start eq ▸ Runs.nil s
    · refine Runs.cons ?_ (Runs.nil _)
      rw [State.step, treat, holds.releaseToBracket]
      rfl
  obtain ⟨s₁, runs, holds₁, -⟩ := first ⟨.leftBracket :: rest, out, false⟩ waits_bracket
  obtain ⟨s₂, runs', holds₂⟩ := others s₁ rest _ (holds₁.mono (Nat.zero_le _)) fun eq =>
    absurd eq (Nat.succ_ne_zero i)
  refine ⟨s₂, (separated.append runs).append runs', ?_⟩
  rw [List.reverse_append, List.append_assoc]
  exact holds₂

/-- A name with its arguments in brackets. -/
theorem SpellsArgs.call {name : String} (h : SpellsArgs 0 items ts) :
    Spells atomLevel (items ++ [.call name]) (.name name :: .leftBracket :: (ts ++ [.rightBracket])) := by
  intro s _
  obtain ⟨s', runs, holds⟩ := h ⟨.leftBracket :: .call name :: s.pending, s.output, false⟩ _ _
    (Holds.base _) fun _ => rfl
  have closed : s'.step .rightBracket =
      .ok ⟨s.pending, .call name :: (items.reverse ++ s.output), true⟩ := by
    rw [State.step, treat, holds.close_call]
    rfl
  refine ⟨_, Runs.cons rfl (Runs.cons rfl (runs.append (Runs.cons closed (Runs.nil _)))), ?_, rfl⟩
  rw [List.reverse_append, List.append_assoc]
  exact Holds.base ⟨s.pending, .call name :: (items.reverse ++ s.output), true⟩

end Postfix.State

/-! ## The first pass -/

namespace Expr

open Postfix Postfix.State

/-- The level of an expression without brackets around it: that of its own operator. -/
def level : Expr → Nat
  | .unary op _ => (Pending.unary op).precedence
  | .binary op _ _ => (Pending.binary op).precedence
  | _ => atomLevel

theorem precedence_binary (op : BinaryOp) : (Pending.binary op).precedence = 2 * op.level + 2 := by
  cases op <;> rfl

/-- A sign binds tighter than every operator between two operands. -/
theorem precedence_lt_sign (op : BinaryOp) : (Pending.binary op).precedence < 8 := by
  cases op <;> decide

theorem precedence_lt_atomLevel (op : BinaryOp) : (Pending.binary op).precedence < atomLevel :=
  Nat.lt_succ_of_lt (precedence_lt_sign op)

/-- A left operand without brackets binds at least as tightly as the operator. -/
theorem le_level_of_left {op : BinaryOp} {e : Expr} (bare : needsLeft op e = false) :
    (Pending.binary op).precedence ≤ e.level := by
  cases e with
  | binary inner _ _ =>
    have le : ¬inner.level < op.level := by simpa [needsLeft] using bare
    rw [level, precedence_binary, precedence_binary]
    omega
  | unary _ _ => exact Nat.le_of_lt (precedence_lt_sign op)
  | _ => exact Nat.le_of_lt (precedence_lt_atomLevel op)

/-- A right operand without brackets binds tighter than the operator. -/
theorem lt_level_of_right {op : BinaryOp} {e : Expr} (bare : needsRight op e = false) :
    (Pending.binary op).precedence + 1 ≤ e.level := by
  cases e with
  | binary inner _ _ =>
    have lt : ¬inner.level ≤ op.level := by simpa [needsRight] using bare
    rw [level, precedence_binary, precedence_binary]
    omega
  | unary _ _ => exact precedence_lt_sign op
  | _ => exact precedence_lt_atomLevel op

/-- What stands without brackets behind a sign holds no operator. -/
theorem le_level_of_signed {e : Expr} (bare : needsSigned e = false) : atomLevel ≤ e.level := by
  cases e with
  | binary _ _ _ => cases bare
  | unary _ _ => cases bare
  | _ => exact Nat.le_refl _

theorem toNat_eq_false {n : Nat} {b : Bool} (h : n + b.toNat = 0) : b = false := by
  cases b with
  | false => rfl
  | true => cases h

mutual

/-- **The tokens of an expression are read as an operand with its items.** -/
theorem spells_bare : ∀ (e : Expr) (extra : List Nat → Nat), e.Proper →
    Spells e.level (items e) (bare extra e)
  | .number x, _, _ => by
    rw [items, bare]
    exact spells_leaf (fun _ => rfl) rfl
  | .text s, _, _ => by
    rw [items, bare]
    exact spells_leaf (fun _ => rfl) rfl
  | .reference a, _, _ => by
    rw [items, bare]
    exact spells_leaf (fun _ => rfl) rfl
  | .unary op operand, extra, proper => by
    rw [Proper] at proper
    rw [items, bare]
    refine Spells.signed ((spells_bare operand (inside extra 0) proper).enclose (Nat.le_refl _) ?_)
    exact fun none => le_level_of_signed (toNat_eq_false none)
  | .binary op left right, extra, proper => by
    rw [Proper] at proper
    rw [items, bare]
    refine Spells.binary
      ((spells_bare left (inside extra 0) proper.1).enclose (Nat.le_of_lt (precedence_lt_atomLevel op)) ?_)
      ((spells_bare right (inside extra 1) proper.2).enclose (precedence_lt_atomLevel op) ?_)
    · exact fun none => le_level_of_left (toNat_eq_false none)
    · exact fun none => lt_level_of_right (toNat_eq_false none)
  | .call function args, extra, proper => by
    rw [Proper] at proper
    rw [items, bare]
    exact (spellsArgs_bareArgs args extra 0 proper.2).call
  | .error _, _, proper => by
    rw [Proper] at proper
    exact proper.elim

theorem spellsArgs_bareArgs : ∀ (args : List Expr) (extra : List Nat → Nat) (i : Nat),
    ProperArgs args → SpellsArgs i (itemsArgs args) (bareArgs extra i args)
  | [], _, i, _ => by
    rw [itemsArgs, bareArgs]
    exact spellsArgs_nil i
  | arg :: args, extra, i, proper => by
    rw [ProperArgs] at proper
    rw [itemsArgs, bareArgs]
    have first : Spells 0 (items arg) (enclose (extra [i]) (bare (inside extra i) arg)) :=
      (spells_bare arg (inside extra i) proper.1).enclose (Nat.zero_le _) fun _ => Nat.zero_le _
    exact SpellsArgs.cons first (spellsArgs_bareArgs args extra (i + 1) proper.2)

end

/-- **Postfix order**: the tokens of an expression, redundant brackets or not, give its items. -/
theorem items_of_spelled {e : Expr} (proper : e.Proper) (extra : List Nat → Nat) :
    Postfix.ofTokens (e.spelled extra) = .ok e.items := by
  have whole : Spells 0 e.items (e.spelled extra) :=
    (spells_bare e extra proper).enclose (Nat.zero_le _) fun _ => Nat.zero_le _
  exact whole.ofTokens

/-! ## The second pass -/

/-- An expression as a finished subtree. -/
def built (e : Expr) : Built := ⟨e, e.depth⟩

/-- The finished subtrees, unless one of a certain depth is too deep. -/
def finished (depth : Nat) (nodes : List Built) : Except FormulaError (List Built) :=
  if depth ≤ depthLimit then .ok nodes else .error (.tooDeeplyNested depthLimit)

/-- Going on from finished subtrees: the greater depth counts. -/
theorem finished_bind {d d' : Nat} {nodes nodes' : List Built}
    {f : List Built → Except FormulaError (List Built)} (h : f nodes = finished d' nodes') :
    (finished d nodes >>= f) = finished (max d d') nodes' := by
  unfold finished at h ⊢
  by_cases shallow : d ≤ depthLimit
  · rw [if_pos shallow]
    refine h.trans ?_
    simp only [Nat.max_le, shallow, true_and]
  · have deep : ¬max d d' ≤ depthLimit := fun le => shallow (Nat.max_le.1 le).1
    rw [if_neg shallow, if_neg deep]
    rfl

theorem build_item {nodes rest : List Built} {item : Item} {e : Expr}
    (h : combine nodes item = .ok (e.built, rest)) :
    [item].foldlM build nodes = finished e.depth (e.built :: rest) := by
  have depth_eq : e.built.depth = e.depth := rfl
  rw [List.foldlM_cons, build, h, finished]
  dsimp only
  rw [depth_eq]
  by_cases deep : depthLimit < e.depth
  · rw [if_pos deep, if_neg (by omega)]
    rfl
  · rw [if_neg deep, if_pos (by omega)]
    rfl

theorem maxDepth_built (args : List Expr) : maxDepth (args.reverse.map built) = depthArgs args := by
  induction args with
  | nil => rw [depthArgs]; rfl
  | cons arg args ih =>
    have last : maxDepth ((arg :: args).reverse.map built) =
        max (maxDepth (args.reverse.map built)) arg.depth := by
      rw [List.reverse_cons, List.map_append, maxDepth, List.foldl_append]
      rfl
    rw [last, ih, depthArgs, Nat.max_comm]

/-- A call takes its arguments from the finished subtrees. -/
theorem combine_call {function : Builtin} {args : List Expr} (nodes : List Built)
    (count : args.length = function.arity) :
    combine (args.reverse.map built ++ nodes) (.call function.name) =
      .ok ((Expr.call function args).built, nodes) := by
  have length : (args.reverse.map built).length = function.arity := by simp [count]
  have taken : (args.reverse.map built ++ nodes).take function.arity = args.reverse.map built :=
    List.take_left' length
  have left : (args.reverse.map built ++ nodes).drop function.arity = nodes :=
    List.drop_left' length
  have exprs : (args.reverse.map built).reverse.map Built.expr = args := by
    have expr : Built.expr ∘ built = id := rfl
    simp [expr]
  rw [combine, Builtin.ofName?_name]
  simp only [taken, left, length, Nat.lt_irrefl, if_false, exprs, maxDepth_built]
  rw [built, depth]

/-- An item behind finished operands. -/
theorem finished_item {d : Nat} {nodes rest : List Built} {item : Item} {e : Expr}
    (h : combine nodes item = .ok (e.built, rest)) (le : d ≤ e.depth) :
    (finished d nodes >>= fun nodes => [item].foldlM build nodes) =
      finished e.depth (e.built :: rest) := by
  rw [finished_bind (build_item h), Nat.max_eq_right le]

mutual

/-- **Building the items of an expression** gives the expression, unless it is too deep. -/
theorem build_items : ∀ (e : Expr) (nodes : List Built), e.Proper →
    (items e).foldlM build nodes = finished e.depth (e.built :: nodes)
  | .number x, nodes, _ => by
    rw [items]
    exact build_item rfl
  | .text s, nodes, _ => by
    rw [items]
    exact build_item rfl
  | .reference a, nodes, _ => by
    rw [items]
    exact build_item rfl
  | .unary op operand, nodes, proper => by
    rw [Proper] at proper
    rw [items, List.foldlM_append, build_items operand nodes proper]
    refine finished_item rfl ?_
    rw [depth]
    exact Nat.le_succ _
  | .binary op left right, nodes, proper => by
    rw [Proper] at proper
    have operands : (items left ++ items right).foldlM build nodes =
        finished (max left.depth right.depth) (right.built :: left.built :: nodes) := by
      rw [List.foldlM_append, build_items left nodes proper.1]
      exact finished_bind (build_items right _ proper.2)
    rw [items, List.foldlM_append, operands]
    refine finished_item rfl ?_
    rw [depth]
    exact Nat.le_succ _
  | .call function args, nodes, proper => by
    rw [Proper] at proper
    rw [items, List.foldlM_append, build_itemsArgs args nodes proper.2]
    refine finished_item (combine_call nodes proper.1) ?_
    rw [depth]
    exact Nat.le_succ _
  | .error _, _, proper => by
    rw [Proper] at proper
    exact proper.elim

theorem build_itemsArgs : ∀ (args : List Expr) (nodes : List Built), ProperArgs args →
    (itemsArgs args).foldlM build nodes = finished (depthArgs args) (args.reverse.map built ++ nodes)
  | [], nodes, _ => by
    rw [itemsArgs, depthArgs]
    rfl
  | arg :: args, nodes, proper => by
    rw [ProperArgs] at proper
    have order : (arg :: args).reverse.map built ++ nodes =
        args.reverse.map built ++ arg.built :: nodes := by simp
    rw [itemsArgs, List.foldlM_append, build_items arg nodes proper.1, order, depthArgs]
    exact finished_bind (build_itemsArgs args _ proper.2)

end

/-! ## Both passes -/

/-- The items of an expression give the expression, or the error for a deep nesting. -/
theorem ofItems_items {e : Expr} (proper : e.Proper) : ofItems e.items =
    if e.depth ≤ depthLimit then .ok e else .error (.tooDeeplyNested depthLimit) := by
  rw [ofItems, build_items e [] proper, finished]
  by_cases shallow : e.depth ≤ depthLimit
  · rw [if_pos shallow, if_pos shallow]
    rfl
  · rw [if_neg shallow, if_neg shallow]

/-- **Parsing gives back every proper expression** that is not nested too deep, from its tokens with
the brackets it needs, and any number of redundant brackets makes no difference. -/
theorem ofTokens_spelled (e : Expr) (proper : e.Proper) :
    ofTokens e.tokens = (if e.depth ≤ 512 then .ok e else .error (.tooDeeplyNested 512)) ∧
      ∀ extra : List Nat → Nat, ofTokens (e.spelled extra) = ofTokens e.tokens := by
  have parsed : ∀ extra : List Nat → Nat, ofTokens (e.spelled extra) = ofItems e.items := by
    intro extra
    rw [ofTokens, items_of_spelled proper]
  refine ⟨?_, fun extra => ?_⟩
  · rw [tokens, parsed]
    exact ofItems_items proper
  · rw [tokens, parsed, parsed]

/-- A sum behind a sign is bracketed, and the sign binds tighter than a product. -/
theorem ofTokens_signed_product :
    let e : Expr := .binary .multiply (.unary .negate (.binary .add (.reference ⟨0, 0⟩) (.text "a")))
      (.call .pi [])
    e.Proper ∧ ofTokens [.minus, .leftBracket, .reference ⟨0, 0⟩, .plus, .text "a", .rightBracket,
      .asterisk, .name "pi", .leftBracket, .rightBracket] = .ok e := by
  intro e
  have proper : e.Proper := ⟨⟨trivial, trivial⟩, rfl, trivial⟩
  have parsed := (ofTokens_spelled e proper).1
  rw [if_pos (by decide)] at parsed
  exact ⟨proper, parsed⟩

end Expr

end Spreadsheet
