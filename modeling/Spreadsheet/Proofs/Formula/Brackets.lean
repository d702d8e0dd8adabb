import Spreadsheet.Formula.Postfix

/-!
# Brackets

No operator, comma or name opens, closes or hides a bracket: the brackets that are held back while a
formula is put into postfix order are as many as are open (`Postfix.State.map_height_foldlM`). So
whether a formula can be put into postfix order, and the error if it cannot, depends on its brackets
alone (`Postfix.ofTokens_brackets`).
-/

namespace Spreadsheet

/-! ## Nesting -/

/-- The number of open brackets after a token. -/
def Token.nest (depth : Nat) : Token → Except FormulaError Nat
  | .leftBracket => .ok (depth + 1)
  | .rightBracket =>
    match depth with
    | 0 => .error (.unmatchedBracket .right)
    | outer + 1 => .ok outer
  | _ => .ok depth

/-- Whether each bracket among some tokens has its partner, or the error that one has none. -/
def Token.balance (ts : List Token) : Except FormulaError Unit :=
  match ts.foldlM Token.nest 0 with
  | .error e => .error e
  | .ok 0 => .ok ()
  | .ok (_ + 1) => .error (.unmatchedBracket .left)

namespace Postfix

namespace State

variable (s : State)

/-- The number of brackets that are held back. -/
def height : Nat := s.pending.countP Pending.isBracket

@[simp] theorem height_emit (item : Item) : (s.emit item).height = s.height := rfl

theorem height_hold (p : Pending) :
    (s.hold p).height = s.height + if p.isBracket then 1 else 0 := by
  rw [height, hold, List.countP_cons, height]

/-- Releasing entries other than brackets. -/
theorem height_releaseWhile {p : Pending → Bool} (keeps : ∀ q, p q = true → q.isBracket = false) :
    (s.releaseWhile p).height = s.height := by
  have none : (s.pending.takeWhile p).countP Pending.isBracket = 0 := by
    rw [List.countP_eq_zero]
    intro q hq
    simp [keeps q (List.all_eq_true.1 List.all_takeWhile q hq)]
  have parts := congrArg (List.countP Pending.isBracket)
    (List.takeWhile_append_dropWhile (p := p) (l := s.pending))
  rw [List.countP_append, none, Nat.zero_add] at parts
  exact parts

@[simp] theorem height_releaseToBracket : s.releaseToBracket.height = s.height :=
  s.height_releaseWhile fun q hq => by simpa using hq

/-- An operator that comes in leaves the brackets alone. -/
theorem height_operator {incoming : Pending} (operator : incoming.isBracket = false) :
    (s.operator incoming).height = s.height := by
  rw [State.operator, height_hold, operator, height_releaseWhile]
  · simp
  · intro q hq
    simp only [Pending.yieldsTo, Bool.and_eq_true] at hq
    simpa using hq.1

/-- Releasing down to a bracket stops at one, if there is one. -/
theorem pending_releaseToBracket :
    s.releaseToBracket.pending = [] ∨
      ∃ rest, s.releaseToBracket.pending = .leftBracket :: rest := by
  cases pending : s.releaseToBracket.pending with
  | nil => exact Or.inl rfl
  | cons p rest =>
    have stop := List.head?_dropWhile_not (fun p : Pending => !p.isBracket) s.pending
    have first : (s.pending.dropWhile fun p => !p.isBracket) = p :: rest := pending
    rw [first] at stop
    obtain rfl : p = .leftBracket := by simpa [Pending.isBracket] using stop
    exact Or.inr ⟨rest, rfl⟩

/-- A closing bracket takes one bracket, if there is one. -/
theorem map_height_close : s.close.map height = Token.nest s.height .rightBracket := by
  rw [← s.height_releaseToBracket, close]
  obtain none | ⟨rest, pending⟩ := s.pending_releaseToBracket
  · simp [none, height, Token.nest, Except.map]
  · have count : s.releaseToBracket.height = rest.countP Pending.isBracket + 1 := by
      rw [height, pending, List.countP_cons_of_pos rfl]
    rw [count]
    simp only [pending, Token.nest]
    cases rest with
    | nil => rfl
    | cons p rest => cases p <;> rfl

/-- **A token changes the number of brackets that are held back** as it changes the number of those
that are open. -/
theorem map_height_step (t : Token) : (s.step t).map height = t.nest s.height := by
  have behind : (s.step t).map height = (s.treat t).map height := by
    rw [step]
    cases s.treat t <;> rfl
  have operator : ∀ incoming : Pending, incoming.isBracket = false →
      Except.map height (.ok (s.operator incoming)) =
        (.ok s.height : Except FormulaError Nat) := by
    intro incoming operator
    rw [Except.map, s.height_operator operator]
  rw [behind]
  cases t with
  | leftBracket => simp [treat, Except.map, Token.nest, height_hold, Pending.isBracket]
  | rightBracket => exact s.map_height_close
  | comma => simp [treat, Except.map, Token.nest]
  | name f => simp [treat, Except.map, Token.nest, height_hold, Pending.isBracket]
  | number | text | reference => simp [treat, Except.map, Token.nest]
  | plus =>
    rw [treat]
    split <;> exact operator _ rfl
  | minus =>
    rw [treat]
    split <;> exact operator _ rfl
  | asterisk | slash => exact operator _ rfl

/-- So it is for any number of tokens. -/
theorem map_height_foldlM (ts : List Token) :
    (ts.foldlM step s).map height = ts.foldlM Token.nest s.height := by
  induction ts generalizing s with
  | nil => rfl
  | cons t ts ih =>
    rw [List.foldlM_cons, List.foldlM_cons, ← s.map_height_step t]
    cases s.step t with
    | error e => rfl
    | ok s' => exact ih s'

/-- At the end, no bracket may be held back. -/
theorem finish_eq : s.finish =
    if s.height = 0 then .ok (s.output.reverse ++ s.pending.filterMap Pending.item?)
    else .error (.unmatchedBracket .left) := by
  have held : s.pending.any Pending.isBracket = true ↔ s.height ≠ 0 := by
    rw [height, ← Nat.pos_iff_ne_zero, List.countP_pos_iff, List.any_eq_true]
  by_cases none : s.height = 0
  · rw [finish, if_neg fun some => held.1 some none, if_pos none]
  · rw [finish, if_pos (held.2 none), if_neg none]

end State

/-- **Postfix order exists** exactly if each bracket has its partner; if not, the error is that for
the bracket. -/
theorem ofTokens_brackets (ts : List Token) :
    (ofTokens ts).map (fun _ => ()) = Token.balance ts := by
  have heights : _ = ts.foldlM Token.nest 0 := State.start.map_height_foldlM ts
  rw [ofTokens, Token.balance, ← heights]
  cases ts.foldlM State.step State.start with
  | error e => rfl
  | ok s =>
    dsimp only [Except.map]
    rw [s.finish_eq]
    cases s.height with
    | zero => rfl
    | succ height => rfl

end Postfix

end Spreadsheet
