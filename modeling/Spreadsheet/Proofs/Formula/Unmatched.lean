import Mathlib.Tactic.ByContra
import Spreadsheet.Formula.Parser
import Spreadsheet.Proofs.Formula.Brackets

/-!
# Unmatched brackets

The open brackets after some tokens are those opened less those closed, if none was closed before
it was opened (`Token.foldlM_nest_eq_ok_iff`). So a bracket without its partner is found by counting
the brackets in the first tokens (`Token.balance_eq_right_iff`, `Token.balance_eq_left_iff`). It is
what a list of tokens is rejected for, whatever else is wrong with it (`Expr.ofTokens_unmatched`):
brackets are looked at while the tokens are put in postfix order, and everything else after that.
-/

namespace Spreadsheet

namespace Token

variable {ts : List Token} {t : Token} {depth n : Nat}

/-! ## Counting brackets -/

/-- Whether a token is an opening bracket. -/
def opens : Token → Bool
  | .leftBracket => true
  | _ => false

/-- Whether a token is a closing bracket. -/
def closes : Token → Bool
  | .rightBracket => true
  | _ => false

/-- With `depth` brackets open in front of the tokens, no bracket among them is closed that is not
open. -/
def ClosesOpen (depth : Nat) (ts : List Token) : Prop :=
  ∀ first, first <+: ts → first.countP closes ≤ depth + first.countP opens

/-- Each bracket has its partner: none is closed before it is opened, and all are closed. -/
def Balanced (ts : List Token) : Prop :=
  (∀ first, first <+: ts → first.countP closes ≤ first.countP opens) ∧
    ts.countP closes = ts.countP opens

theorem closesOpen_nil : ClosesOpen depth [] := by
  intro first h
  rw [List.prefix_nil.1 h]
  simp

/-- The first token closes an open bracket, if it closes one, and so do the others. -/
theorem closesOpen_cons : ClosesOpen depth (t :: ts) ↔
    ∀ first, first <+: ts → (t :: first).countP closes ≤ depth + (t :: first).countP opens := by
  constructor
  · intro h first hf
    exact h _ (List.cons_prefix_cons.2 ⟨rfl, hf⟩)
  · intro h first hf
    rcases List.prefix_cons_iff.1 hf with rfl | ⟨others, rfl, ho⟩
    · simp
    · exact h others ho

/-- **One token**: the brackets that are open afterwards, if the token closes none that is not
open. -/
theorem nest_eq_ok_iff : t.nest depth = .ok n ↔
    n + (if t.closes then 1 else 0) = depth + if t.opens then 1 else 0 := by
  cases t with
  | rightBracket => cases depth <;> simp [nest, opens, closes, eq_comm]
  | _ => simp [nest, opens, closes, eq_comm]

/-- **Open brackets** are those opened less those closed. -/
theorem foldlM_nest_eq_ok_iff : ts.foldlM nest depth = .ok n ↔
    ClosesOpen depth ts ∧ n + ts.countP closes = depth + ts.countP opens := by
  induction ts generalizing depth with
  | nil => simp [closesOpen_nil, pure, Except.pure, eq_comm]
  | cons t ts ih =>
    rw [List.foldlM_cons, closesOpen_cons]
    simp only [List.countP_cons]
    cases next : t.nest depth with
    | error e =>
      -- the token closes a bracket that is not open
      constructor
      · intro h
        cases h
      · rintro ⟨closed, -⟩
        have first := closed [] List.nil_prefix
        rw [List.countP_nil, List.countP_nil] at first
        cases next.symm.trans (nest_eq_ok_iff.2 (Nat.sub_add_cancel (by omega)))
    | ok m =>
      have after := nest_eq_ok_iff.1 next
      refine ih.trans (and_congr (forall₂_congr fun us _ => ?_) ?_) <;> omega

theorem error_of_nest {e : FormulaError} (h : t.nest depth = .error e) :
    e = .unmatchedBracket .right := by
  cases t <;> cases depth <;> cases h
  rfl

/-- The only thing that can be wrong before the end is a closing bracket. -/
theorem error_of_foldlM_nest {e : FormulaError} (h : ts.foldlM nest depth = .error e) :
    e = .unmatchedBracket .right := by
  induction ts generalizing depth with
  | nil => cases h
  | cons t ts ih =>
    rw [List.foldlM_cons] at h
    cases next : t.nest depth with
    | error e' =>
      rw [next] at h
      cases h
      exact error_of_nest next
    | ok m =>
      rw [next] at h
      exact ih h

theorem foldlM_nest_eq_error_iff : ts.foldlM nest depth = .error (.unmatchedBracket .right) ↔
    ¬ClosesOpen depth ts := by
  cases result : ts.foldlM nest depth with
  | error e =>
    rw [error_of_foldlM_nest result, eq_self, true_iff]
    intro closed
    have enough : ts.countP closes ≤ depth + ts.countP opens := closed ts List.prefix_rfl
    cases result.symm.trans (foldlM_nest_eq_ok_iff.2 ⟨closed, Nat.sub_add_cancel enough⟩)
  | ok n => simp [(foldlM_nest_eq_ok_iff.1 result).1]

/-! ## Balance -/

theorem closesOpen_zero : ClosesOpen 0 ts ↔
    ∀ first, first <+: ts → first.countP closes ≤ first.countP opens := by
  simp [ClosesOpen]

/-- A closing bracket lacks its partner if it is one too many at some point. -/
theorem balance_eq_right_iff : balance ts = .error (.unmatchedBracket .right) ↔
    ∃ first, first <+: ts ∧ first.countP opens < first.countP closes := by
  have early : ts.foldlM nest 0 = .error (.unmatchedBracket .right) ↔
      ∃ first, first <+: ts ∧ first.countP opens < first.countP closes := by
    rw [foldlM_nest_eq_error_iff, closesOpen_zero]
    simp only [Classical.not_forall, exists_prop, Nat.not_le]
  rw [← early, balance]
  cases ts.foldlM nest 0 with
  | error e => simp
  | ok n => cases n <;> simp

/-- An opening bracket lacks its partner if it is one too many at the end, and no closing bracket
does. -/
theorem balance_eq_left_iff : balance ts = .error (.unmatchedBracket .left) ↔
    (∀ first, first <+: ts → first.countP closes ≤ first.countP opens) ∧
      ts.countP closes < ts.countP opens := by
  rw [← closesOpen_zero, balance]
  cases result : ts.foldlM nest 0 with
  | error e =>
    have early : ¬ClosesOpen 0 ts := by
      rw [← foldlM_nest_eq_error_iff, result, error_of_foldlM_nest result]
    simp [early, error_of_foldlM_nest result]
  | ok n =>
    obtain ⟨closed, count⟩ := foldlM_nest_eq_ok_iff.1 result
    cases n <;> simp [closed] <;> omega

/-- **Balanced brackets** are those whose counts agree at the end and never cross before. -/
theorem balance_eq_ok_iff : balance ts = .ok () ↔ Balanced ts := by
  rw [Balanced, ← closesOpen_zero, balance]
  cases result : ts.foldlM nest 0 with
  | error e =>
    have early : ¬ClosesOpen 0 ts := by
      rw [← foldlM_nest_eq_error_iff, result, error_of_foldlM_nest result]
    simp [early]
  | ok n =>
    obtain ⟨closed, count⟩ := foldlM_nest_eq_ok_iff.1 result
    cases n <;> simp [closed] <;> omega

end Token

/-! ## Brackets that are held back -/

namespace Postfix.State

variable {s s' : State} {t : Token} {ts : List Token}

/-- The innermost open bracket with all that is held back below it. -/
def fromBracket (s : State) : List Pending := s.pending.dropWhile fun p => !p.isBracket

theorem dropWhile_dropWhile_of_imp {α : Type} {p q : α → Bool}
    (imp : ∀ x, p x = true → q x = true) (l : List α) :
    (l.dropWhile p).dropWhile q = l.dropWhile q := by
  induction l with
  | nil => rfl
  | cons x l ih =>
    by_cases hp : p x = true
    · rw [List.dropWhile_cons_of_pos hp, List.dropWhile_cons_of_pos (imp x hp), ih]
    · rw [List.dropWhile_cons_of_neg hp]

theorem fromBracket_releaseWhile {p : Pending → Bool}
    (keeps : ∀ q, p q = true → (!q.isBracket) = true) :
    (s.releaseWhile p).fromBracket = s.fromBracket :=
  dropWhile_dropWhile_of_imp keeps s.pending

theorem fromBracket_hold {p : Pending} (operator : p.isBracket = false) :
    (s.hold p).fromBracket = s.fromBracket :=
  List.dropWhile_cons_of_pos (by simp [operator])

theorem fromBracket_operator {incoming : Pending} (operator : incoming.isBracket = false) :
    (s.operator incoming).fromBracket = s.fromBracket := by
  rw [State.operator, fromBracket_hold operator, fromBracket_releaseWhile]
  intro q hq
  simp only [Pending.yieldsTo, Bool.and_eq_true] at hq
  exact hq.1

/-- **A token that is no bracket** neither adds a bracket nor takes one away, and it leaves all that
is held back below the innermost bracket alone. -/
theorem step_beside (opens : t.opens = false) (closes : t.closes = false) :
    ∃ s', s.step t = .ok s' ∧ s'.fromBracket = s.fromBracket := by
  cases t with
  | leftBracket => cases opens
  | rightBracket => cases closes
  | number | text | reference => exact ⟨_, rfl, rfl⟩
  | name f => exact ⟨_, rfl, fromBracket_hold rfl⟩
  | comma => exact ⟨_, rfl, fromBracket_releaseWhile fun _ => id⟩
  | plus => exact ⟨_, rfl, fromBracket_operator (by split <;> rfl)⟩
  | minus => exact ⟨_, rfl, fromBracket_operator (by split <;> rfl)⟩
  | asterisk | slash => exact ⟨_, rfl, fromBracket_operator rfl⟩

/-- **The brackets that are held back** are as many as were opened and not closed. -/
theorem height_of_foldlM (h : ts.foldlM step start = .ok s) :
    s.height + ts.countP Token.closes = ts.countP Token.opens := by
  have heights : _ = ts.foldlM Token.nest 0 := start.map_height_foldlM ts
  rw [h] at heights
  simpa using (Token.foldlM_nest_eq_ok_iff.1 heights.symm).2

end Postfix.State

/-! ## Errors for brackets -/

/-- Whether an error is for a bracket without its partner. -/
def FormulaError.isUnmatched : FormulaError → Bool
  | .unmatchedBracket _ => true
  | _ => false

namespace Expr

variable {ts : List Token} {side : Bracket}

theorem isUnmatched_of_combine {nodes : List Built} {item : Item} {e : FormulaError}
    (h : combine nodes item = .error e) : e.isUnmatched = false := by
  cases item with
  | number | text | reference => cases h
  | unary op =>
    simp only [combine] at h
    split at h <;> cases h
    rfl
  | binary op =>
    simp only [combine] at h
    split at h <;> cases h
    rfl
  | call name =>
    simp only [combine] at h
    split at h
    · cases h
      rfl
    · split at h <;> cases h
      rfl

theorem isUnmatched_of_build {nodes : List Built} {item : Item} {e : FormulaError}
    (h : build nodes item = .error e) : e.isUnmatched = false := by
  unfold build at h
  split at h
  · rename_i combined
    cases h
    exact isUnmatched_of_combine combined
  · split at h <;> cases h
    rfl

theorem isUnmatched_of_foldlM_build {nodes : List Built} {items : List Item} {e : FormulaError}
    (h : items.foldlM build nodes = .error e) : e.isUnmatched = false := by
  induction items generalizing nodes with
  | nil => cases h
  | cons item items ih =>
    rw [List.foldlM_cons] at h
    cases first : build nodes item with
    | error e' =>
      rw [first] at h
      cases h
      exact isUnmatched_of_build first
    | ok nodes' =>
      rw [first] at h
      exact ih h

/-- Nothing is said of brackets when the expression is built. -/
theorem isUnmatched_of_ofItems {items : List Item} {e : FormulaError}
    (h : ofItems items = .error e) : e.isUnmatched = false := by
  unfold ofItems at h
  split at h
  · rename_i built
    cases h
    exact isUnmatched_of_foldlM_build built
  · cases h
  · cases h
  · cases h
    rfl

/-- A list of tokens is rejected for a bracket if its brackets are not balanced. -/
theorem ofTokens_eq_unmatched_iff : ofTokens ts = .error (.unmatchedBracket side) ↔
    Token.balance ts = .error (.unmatchedBracket side) := by
  rw [← Postfix.ofTokens_brackets, ofTokens]
  cases Postfix.ofTokens ts with
  | error e => simp [Except.map]
  | ok items =>
    have other : ofItems items ≠ .error (.unmatchedBracket side) := by
      intro h
      cases isUnmatched_of_ofItems h
    simp [Except.map, other]

/-- An outcome that says nothing of brackets comes of balanced ones only. -/
theorem exists_unmatched_iff :
    (∃ side, ofTokens ts = .error (.unmatchedBracket side)) ↔ ¬Token.Balanced ts := by
  simp only [ofTokens_eq_unmatched_iff, ← Token.balance_eq_ok_iff]
  constructor
  · rintro ⟨side, unmatched⟩ balanced
    cases unmatched.symm.trans balanced
  · intro unbalanced
    unfold Token.balance at unbalanced ⊢
    split at unbalanced
    · rename_i early
      exact ⟨.right, by rw [Token.error_of_foldlM_nest early]⟩
    · exact absurd rfl unbalanced
    · exact ⟨.left, rfl⟩

/-- **Errors for brackets are exact.** A closing bracket is unmatched exactly if the first tokens, up
to some place, hold more closing than opening brackets; an opening bracket is, if they never do and
all tokens hold more opening than closing ones. Other errors, and expressions, are only given for
balanced brackets. At each place in a list of tokens as many brackets are held back as are open
there, and a token other than a bracket succeeds and touches neither the innermost of them nor what
is held back below it. -/
theorem ofTokens_unmatched (ts : List Token) :
    (ofTokens ts = .error (.unmatchedBracket .right) ↔
      ∃ first, first <+: ts ∧ first.countP Token.opens < first.countP Token.closes) ∧
    (ofTokens ts = .error (.unmatchedBracket .left) ↔
      (∀ first, first <+: ts → first.countP Token.closes ≤ first.countP Token.opens) ∧
        ts.countP Token.closes < ts.countP Token.opens) ∧
    ((∃ side, ofTokens ts = .error (.unmatchedBracket side)) ↔ ¬Token.Balanced ts) ∧
    (∀ e, ofTokens ts = .ok e → Token.Balanced ts) ∧
    (∀ first s, first <+: ts → first.foldlM Postfix.State.step Postfix.State.start = .ok s →
      s.height + first.countP Token.closes = first.countP Token.opens) ∧
    ∀ (s : Postfix.State) (t : Token), t.opens = false → t.closes = false →
      ∃ s', s.step t = .ok s' ∧ s'.fromBracket = s.fromBracket := by
  refine ⟨ofTokens_eq_unmatched_iff.trans Token.balance_eq_right_iff,
    ofTokens_eq_unmatched_iff.trans Token.balance_eq_left_iff, exists_unmatched_iff,
    fun e accepted => ?_, fun first s _ run => Postfix.State.height_of_foldlM run,
    fun s t opens closes => Postfix.State.step_beside opens closes⟩
  by_contra unbalanced
  obtain ⟨side, rejected⟩ := exists_unmatched_iff.2 unbalanced
  cases rejected.symm.trans accepted

/-- The bracket is what is wrong, although no function has this name and an operator lacks an
operand. -/
theorem ofTokens_unmatched_first :
    ofTokens [.name "foo", .leftBracket, .slash, .rightBracket, .rightBracket, .leftBracket] =
        .error (.unmatchedBracket .right) ∧
      ofTokens [.name "foo", .leftBracket, .slash] = .error (.unmatchedBracket .left) := by
  constructor
  · obtain ⟨right, -⟩ := ofTokens_unmatched
      [.name "foo", .leftBracket, .slash, .rightBracket, .rightBracket, .leftBracket]
    refine right.2
      ⟨[.name "foo", .leftBracket, .slash, .rightBracket, .rightBracket], ?_, by decide⟩
    exact List.prefix_append _ [Token.leftBracket]
  · obtain ⟨-, left, -⟩ := ofTokens_unmatched [.name "foo", .leftBracket, .slash]
    refine left.2 ⟨fun first hf => ?_, by decide⟩
    have none : first.countP Token.closes ≤ 0 := hf.sublist.countP_le
    omega

end Expr

end Spreadsheet
