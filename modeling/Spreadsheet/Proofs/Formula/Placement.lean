import Spreadsheet.Proofs.Formula.Brackets
import Spreadsheet.Proofs.Formula.Building
import Spreadsheet.Proofs.Formula.Grammar

/-!
# Tokens in their places

Where a token may stand in a formula depends on the token in front of it and on whether the
innermost open bracket is that of a call (`Place.next?`). Tokens that are accepted by the parser are
a formula exactly if each of them stands in such a place (`Formula.exists_tokens_iff`): brackets
have their partners there, and an unfinished formula, a row of open brackets with what was written
in front of each (`OpenBracket`), becomes a formula when they are closed. Tokens that are no formula
are accepted whenever their brackets have their partners and the number of operands works out
(`Formula.accepted_misplaced_iff`).
-/

namespace Spreadsheet

/-! ## Places -/

/-- What may come next in a formula. -/
inductive Expected where
  /-- An operand, behind an operator, a sign, a comma or an open bracket. -/
  | operand
  /-- An operand, or the end of the arguments of a call that has none. -/
  | argument
  /-- The bracket behind the name of a call. -/
  | bracket
  /-- An operator, a comma or a closing bracket, behind an operand. -/
  | operator
  deriving DecidableEq

/-- A place in front of a token: what may come next, and for each open bracket, the last first,
whether it is that of a call. -/
structure Place where
  expected : Expected
  calls : List Bool
  deriving DecidableEq

namespace Place

/-- The place behind a token that starts an operand, or is one. -/
def begin? (calls : List Bool) : Token → Option Place
  | .number _ | .text _ | .reference _ => some ⟨.operator, calls⟩
  | .plus | .minus => some ⟨.operand, calls⟩
  | .leftBracket => some ⟨.operand, false :: calls⟩
  | .name _ => some ⟨.bracket, calls⟩
  | _ => none

/-- The place behind a token that follows an operand. A comma stands directly inside the bracket of
a call. -/
def follow? (calls : List Bool) : Token → Option Place
  | .plus | .minus | .asterisk | .slash => some ⟨.operand, calls⟩
  | .comma => if calls.head? = some true then some ⟨.operand, calls⟩ else none
  | .rightBracket => some ⟨.operator, calls.tail⟩
  | _ => none

/-- The place behind a token, if the token may stand in a place. -/
def next? (p : Place) (t : Token) : Option Place :=
  match p.expected, t with
  | .operand, t => begin? p.calls t
  | .argument, .rightBracket => some ⟨.operator, p.calls.tail⟩
  | .argument, t => begin? p.calls t
  | .bracket, .leftBracket => some ⟨.argument, true :: p.calls⟩
  | .bracket, _ => none
  | .operator, t => follow? p.calls t

/-- The place in front of a formula. -/
def start : Place := ⟨.operand, []⟩

/-- Some tokens lead from one place to another, each of them standing where it may stand. -/
def Runs (p : Place) (ts : List Token) (q : Place) : Prop := ts.foldlM next? p = some q

/-- Each of the tokens stands where it may stand, and the last one ends an operand. -/
def Fits (ts : List Token) : Prop := ∃ calls, start.Runs ts ⟨.operator, calls⟩

variable {p q : Place} {t : Token} {ts us : List Token} {calls : List Bool}

theorem Runs.nil (p : Place) : p.Runs [] p := rfl

theorem Runs.cons {p₁ : Place} (first : p.next? t = some p₁) (h : p₁.Runs ts q) :
    p.Runs (t :: ts) q := by
  rw [Runs, List.foldlM_cons, first]
  exact h

theorem Runs.append {p₁ : Place} (h : p.Runs ts p₁) (h' : p₁.Runs us q) : p.Runs (ts ++ us) q := by
  rw [Runs, List.foldlM_append, h]
  exact h'

theorem Runs.of_cons (h : p.Runs (t :: ts) q) : ∃ p₁, p.next? t = some p₁ ∧ p₁.Runs ts q := by
  rw [Runs, List.foldlM_cons] at h
  exact Option.bind_eq_some_iff.1 h

/-- An operand may start here. -/
def Begins (p : Place) : Prop := p.expected = .operand ∨ p.expected = .argument

theorem Begins.next? (begins : p.Begins) (h : begin? p.calls t = some q) : p.next? t = some q := by
  obtain ⟨expected, calls⟩ := p
  rcases begins with rfl | rfl
  · exact h
  · cases t <;> first | exact h | cases h

theorem nest_begin? (h : begin? calls t = some q) :
    t.nest calls.length = .ok q.calls.length := by
  cases t <;> cases h <;> rfl

theorem nest_follow? (h : follow? calls t = some q) (inner : t = .rightBracket → calls ≠ []) :
    t.nest calls.length = .ok q.calls.length := by
  cases t with
  | rightBracket =>
    cases h
    cases calls with
    | nil => exact absurd rfl (inner rfl)
    | cons call calls => rfl
  | comma =>
    rw [follow?] at h
    split at h <;> cases h
    rfl
  | _ => cases h <;> rfl

/-- **The brackets of a place** are those that are open, unless one is closed that is not open. -/
theorem nest_length (next : p.next? t = some q) (inner : t = .rightBracket → p.calls ≠ []) :
    t.nest p.calls.length = .ok q.calls.length := by
  obtain ⟨expected, calls⟩ := p
  cases expected with
  | operand => exact nest_begin? next
  | argument =>
    cases t with
    | rightBracket =>
      cases calls with
      | nil => exact absurd rfl (inner rfl)
      | cons call calls =>
        cases next
        rfl
    | _ => exact nest_begin? next
  | bracket =>
    cases t with
    | leftBracket =>
      cases next
      rfl
    | _ => cases next
  | operator => exact nest_follow? next inner

end Place

/-! ## Formulas fit -/

open Place

mutual

/-- **The tokens of an operand stand in their places** where an operand may start. -/
theorem Operand.runs : ∀ (x : Operand) {p : Place}, p.Begins →
    p.Runs x.tokens ⟨.operator, p.calls⟩
  | .number _, p, begins => by
    rw [Operand.tokens]
    exact .cons (begins.next? rfl) (.nil _)
  | .text _, p, begins => by
    rw [Operand.tokens]
    exact .cons (begins.next? rfl) (.nil _)
  | .reference _, p, begins => by
    rw [Operand.tokens]
    exact .cons (begins.next? rfl) (.nil _)
  | .signed op x, p, begins => by
    have first : p.next? op.token = some ⟨.operand, p.calls⟩ := begins.next? (by cases op <;> rfl)
    rw [Operand.tokens]
    exact .cons first (Operand.runs x (Or.inl rfl))
  | .bracketed e, p, begins => by
    have inner := Formula.runs e (p := ⟨.operand, false :: p.calls⟩) (Or.inl rfl)
    rw [Operand.tokens]
    exact .cons (begins.next? rfl) (inner.append (.cons rfl (.nil _)))
  | .call name args, p, begins => by
    obtain ⟨expected, inner, closes⟩ := Formula.runs_argTokens args p.calls
    rw [Operand.tokens]
    exact .cons (begins.next? rfl) (.cons rfl (inner.append (.cons closes (.nil _))))

theorem Formula.runs : ∀ (e : Formula) {p : Place}, p.Begins →
    p.Runs e.tokens ⟨.operator, p.calls⟩
  | .operand x, p, begins => by
    rw [Formula.tokens]
    exact Operand.runs x begins
  | .binary left op right, p, begins => by
    have operator : Place.next? ⟨.operator, p.calls⟩ op.token = some ⟨.operand, p.calls⟩ := by
      cases op <;> rfl
    rw [Formula.tokens]
    exact (Formula.runs left begins).append (.cons operator (Operand.runs right (Or.inl rfl)))

/-- The arguments of a call lead to a place where its bracket may be closed. -/
theorem Formula.runs_argTokens : ∀ (es : List Formula) (calls : List Bool),
    ∃ expected, Place.Runs ⟨.argument, true :: calls⟩ (Formula.argTokens es)
        ⟨expected, true :: calls⟩ ∧
      Place.next? ⟨expected, true :: calls⟩ .rightBracket = some ⟨.operator, calls⟩
  | [], calls => by
    rw [Formula.argTokens]
    exact ⟨.argument, .nil _, rfl⟩
  | e :: es, calls => by
    have first := Formula.runs e (p := ⟨.argument, true :: calls⟩) (Or.inr rfl)
    rw [Formula.argTokens]
    exact ⟨.operator, first.append (Formula.runs_moreTokens es calls), rfl⟩

theorem Formula.runs_moreTokens : ∀ (es : List Formula) (calls : List Bool),
    Place.Runs ⟨.operator, true :: calls⟩ (Formula.moreTokens es) ⟨.operator, true :: calls⟩
  | [], calls => by
    rw [Formula.moreTokens]
    exact .nil _
  | e :: es, calls => by
    have first := Formula.runs e (p := ⟨.operand, true :: calls⟩) (Or.inl rfl)
    rw [Formula.moreTokens]
    exact .cons rfl (first.append (Formula.runs_moreTokens es calls))

end

/-- **The tokens of a formula stand in their places.** -/
theorem Formula.fits (e : Formula) : Fits e.tokens := ⟨[], e.runs (Or.inl rfl)⟩

/-! ## Unfinished formulas -/

/-- What was written in front of a missing operand: a formula and an operator, if there are any, and
signs. -/
structure Gap where
  left : Option (Formula × BinaryOp)
  signs : List UnaryOp

namespace Gap

/-- Nothing in front of the operand. -/
def empty : Gap := ⟨none, []⟩

/-- The formula up to the operand, with the operand. -/
def fill (g : Gap) (x : Operand) : Formula :=
  match g.left with
  | none => .operand (g.signs.foldr .signed x)
  | some (left, op) => .binary left op (g.signs.foldr .signed x)

/-- The tokens in front of the operand. -/
def tokens (g : Gap) : List Token :=
  match g.left with
  | none => g.signs.map UnaryOp.token
  | some (left, op) => left.tokens ++ op.token :: g.signs.map UnaryOp.token

theorem tokens_signs (signs : List UnaryOp) (x : Operand) :
    (signs.foldr Operand.signed x).tokens = signs.map UnaryOp.token ++ x.tokens := by
  induction signs with
  | nil => rfl
  | cons op signs ih => rw [List.foldr_cons, Operand.tokens, ih, List.map_cons, List.cons_append]

theorem tokens_fill (g : Gap) (x : Operand) : (g.fill x).tokens = g.tokens ++ x.tokens := by
  obtain ⟨left, signs⟩ := g
  cases left with
  | none => rw [fill, tokens, Formula.tokens, tokens_signs]
  | some left =>
    simp only [fill, tokens, Formula.tokens, tokens_signs, List.append_assoc, List.cons_append]

end Gap

/-- An open bracket in an unfinished formula: alone, or that of a call with its finished
arguments. -/
inductive Opening where
  | bracket
  | call (name : String) (args : List Formula)

namespace Opening

/-- Whether a bracket is that of a call. -/
def isCall : Opening → Bool
  | .bracket => false
  | .call _ _ => true

/-- The operand that ends with the partner of a bracket. -/
def close (e : Formula) : Opening → Operand
  | .bracket => .bracketed e
  | .call name args => .call name (args ++ [e])

/-- The tokens from a bracket, or the name in front of it, on. -/
def tokens : Opening → List Token
  | .bracket => [.leftBracket]
  | .call name args =>
    .name name :: .leftBracket :: args.flatMap fun e => e.tokens ++ [.comma]

theorem moreTokens_concat (es : List Formula) (e : Formula) :
    Formula.moreTokens (es ++ [e]) = .comma :: Formula.argTokens (es ++ [e]) := by
  cases es <;> rfl

theorem argTokens_concat (es : List Formula) (e : Formula) :
    Formula.argTokens (es ++ [e]) = (es.flatMap fun e => e.tokens ++ [.comma]) ++ e.tokens := by
  induction es with
  | nil => simp [Formula.argTokens, Formula.moreTokens]
  | cons a es ih =>
    rw [List.cons_append, Formula.argTokens, moreTokens_concat, ih]
    simp

theorem tokens_close (o : Opening) (e : Formula) :
    (o.close e).tokens = o.tokens ++ (e.tokens ++ [.rightBracket]) := by
  cases o with
  | bracket => rw [close, Operand.tokens, tokens, List.singleton_append]
  | call name args => simp [close, Operand.tokens, tokens, argTokens_concat]

end Opening

/-- An open bracket and what was written in front of the operand that it starts. -/
structure OpenBracket where
  gap : Gap
  opening : Opening

namespace OpenBracket

def tokens (f : OpenBracket) : List Token := f.gap.tokens ++ f.opening.tokens

/-- The formula that ends with the partner of the bracket. -/
def close (f : OpenBracket) (e : Formula) : Formula := f.gap.fill (f.opening.close e)

theorem tokens_close (f : OpenBracket) (e : Formula) :
    (f.close e).tokens = f.tokens ++ (e.tokens ++ [.rightBracket]) := by
  rw [close, Gap.tokens_fill, Opening.tokens_close, tokens, List.append_assoc]

/-- The tokens of some open brackets, the last first. -/
def openTokens : List OpenBracket → List Token
  | [] => []
  | f :: fs => openTokens fs ++ f.tokens

/-- Whether each bracket is that of a call. -/
def calls (brackets : List OpenBracket) : List Bool := brackets.map fun f => f.opening.isCall

end OpenBracket

open OpenBracket

/-- Some tokens are an unfinished formula, and the place behind them. -/
inductive Unfinished : Place → List Token → Prop
  | operand (brackets : List OpenBracket) (g : Gap) :
    Unfinished ⟨.operand, calls brackets⟩ (openTokens brackets ++ g.tokens)
  | argument (brackets : List OpenBracket) (g : Gap) (name : String) :
    Unfinished ⟨.argument, true :: calls brackets⟩
      (openTokens brackets ++ (g.tokens ++ [.name name, .leftBracket]))
  | bracket (brackets : List OpenBracket) (g : Gap) (name : String) :
    Unfinished ⟨.bracket, calls brackets⟩ (openTokens brackets ++ (g.tokens ++ [.name name]))
  | operator (brackets : List OpenBracket) (e : Formula) :
    Unfinished ⟨.operator, calls brackets⟩ (openTokens brackets ++ e.tokens)

namespace Unfinished

variable {p q : Place} {t : Token} {ts us : List Token} {brackets : List OpenBracket} {n : Nat}

theorem cast (h : Unfinished p ts) (eq : ts = us) : Unfinished p us := eq ▸ h

theorem start : Unfinished Place.start [] := operand [] .empty

/-- An operand behind what was written in front of it. -/
theorem fill (brackets : List OpenBracket) (g : Gap) (x : Operand) :
    Unfinished ⟨.operator, calls brackets⟩ (openTokens brackets ++ (g.tokens ++ x.tokens)) :=
  (operator brackets (g.fill x)).cast (by rw [Gap.tokens_fill])

/-- One more sign in front of a missing operand. -/
theorem sign (brackets : List OpenBracket) (g : Gap) (op : UnaryOp) :
    Unfinished ⟨.operand, calls brackets⟩ (openTokens brackets ++ (g.tokens ++ [op.token])) := by
  have tokens : (Gap.mk g.left (g.signs ++ [op])).tokens = g.tokens ++ [op.token] := by
    obtain ⟨left, signs⟩ := g
    cases left <;> simp [Gap.tokens]
  exact (operand brackets ⟨g.left, g.signs ++ [op]⟩).cast (by rw [tokens])

/-- One more open bracket. -/
theorem opened (brackets : List OpenBracket) (g : Gap) (o : Opening) :
    Unfinished ⟨.operand, o.isCall :: calls brackets⟩
      (openTokens brackets ++ (g.tokens ++ o.tokens)) :=
  (operand (⟨g, o⟩ :: brackets) .empty).cast
    (by simp [openTokens, OpenBracket.tokens, Gap.empty, Gap.tokens])

/-- A token that starts an operand, behind what was written in front of the operand. -/
theorem begin (g : Gap) (next : begin? (calls brackets) t = some q) :
    Unfinished q (openTokens brackets ++ (g.tokens ++ [t])) := by
  cases t with
  | number x =>
    cases next
    exact (fill brackets g (.number x)).cast (by rw [Operand.tokens])
  | text s =>
    cases next
    exact (fill brackets g (.text s)).cast (by rw [Operand.tokens])
  | reference a =>
    cases next
    exact (fill brackets g (.reference a)).cast (by rw [Operand.tokens])
  | name s =>
    cases next
    exact bracket brackets g s
  | plus =>
    cases next
    exact sign brackets g .plus
  | minus =>
    cases next
    exact sign brackets g .negate
  | leftBracket =>
    cases next
    exact opened brackets g .bracket
  | asterisk | slash | rightBracket | comma => cases next

/-- An operator behind a formula. -/
theorem join (brackets : List OpenBracket) (e : Formula) (op : BinaryOp) :
    Unfinished ⟨.operand, calls brackets⟩ (openTokens brackets ++ (e.tokens ++ [op.token])) :=
  (operand brackets ⟨some (e, op), []⟩).cast (by simp [Gap.tokens])

/-- A comma behind a formula, directly inside the bracket of a call. -/
theorem separate {brackets : List OpenBracket} (call : (calls brackets).head? = some true)
    (e : Formula) :
    Unfinished ⟨.operand, calls brackets⟩ (openTokens brackets ++ (e.tokens ++ [.comma])) := by
  cases brackets with
  | nil => cases call
  | cons f brackets =>
    obtain ⟨g, o⟩ := f
    cases o with
    | bracket => cases call
    | call name args =>
      refine (opened brackets g (.call name (args ++ [e]))).cast ?_
      simp [openTokens, OpenBracket.tokens, Opening.tokens]

/-- A closing bracket behind a formula. -/
theorem closed {brackets : List OpenBracket} (inner : brackets ≠ []) (e : Formula) :
    Unfinished ⟨.operator, (calls brackets).tail⟩
      (openTokens brackets ++ (e.tokens ++ [.rightBracket])) := by
  cases brackets with
  | nil => exact absurd rfl inner
  | cons f brackets =>
    refine (operator brackets (f.close e)).cast ?_
    rw [tokens_close, openTokens, List.append_assoc]

/-- A token that follows an operand, behind a formula. -/
theorem follow (e : Formula) (next : follow? (calls brackets) t = some q)
    (inner : t = .rightBracket → brackets ≠ []) :
    Unfinished q (openTokens brackets ++ (e.tokens ++ [t])) := by
  cases t with
  | plus =>
    cases next
    exact join brackets e .add
  | minus =>
    cases next
    exact join brackets e .subtract
  | asterisk =>
    cases next
    exact join brackets e .multiply
  | slash =>
    cases next
    exact join brackets e .divide
  | comma =>
    rw [follow?] at next
    split at next
    · rename_i call
      cases next
      exact separate call e
    · cases next
  | rightBracket =>
    cases next
    exact closed (inner rfl) e
  | number | text | reference | name | leftBracket => cases next

/-- **A token in its place** continues an unfinished formula, if no bracket is closed that is not
open. -/
theorem next (h : Unfinished p ts) (next : p.next? t = some q)
    (inner : t = .rightBracket → p.calls ≠ []) : Unfinished q (ts ++ [t]) := by
  cases h with
  | operand brackets g => exact (begin g next).cast (by simp)
  | argument brackets g name =>
    by_cases closing : t = .rightBracket
    · -- the call has no arguments
      subst closing
      cases next
      exact (fill brackets g (.call name [])).cast
        (by simp [Operand.tokens, Formula.argTokens])
    · have next : begin? (calls (⟨g, .call name []⟩ :: brackets)) t = some q := by
        cases t <;> first | exact next | exact absurd rfl closing
      exact (begin .empty next).cast
        (by simp [openTokens, OpenBracket.tokens, Opening.tokens, Gap.empty, Gap.tokens])
  | bracket brackets g name =>
    cases t with
    | leftBracket =>
      cases next
      exact (argument brackets g name).cast (by simp)
    | _ => cases next
  | operator brackets e =>
    have inner : t = .rightBracket → brackets ≠ [] := by
      intro closing none
      exact inner closing (by rw [none]; rfl)
    exact (follow e next inner).cast (by simp)

/-- Tokens in their places continue an unfinished formula, if no bracket is closed that is not
open; the brackets of the place behind them are those that are open. -/
theorem runs (h : Unfinished p us) (run : p.Runs ts q)
    (nested : ts.foldlM Token.nest p.calls.length = .ok n) :
    Unfinished q (us ++ ts) ∧ q.calls.length = n := by
  induction ts generalizing p us with
  | nil =>
    cases run
    cases nested
    exact ⟨by rwa [List.append_nil], rfl⟩
  | cons t ts ih =>
    obtain ⟨p₁, next, run⟩ := run.of_cons
    have inner : t = .rightBracket → p.calls ≠ [] := by
      rintro rfl none
      rw [List.foldlM_cons, none] at nested
      cases nested
    rw [List.foldlM_cons, Place.nest_length next inner] at nested
    have continued := ih (h.next next inner) run nested
    rwa [List.append_assoc] at continued

end Unfinished

/-! ## Accepted tokens -/

/-- **Tokens that fit are a formula** if each bracket has its partner. -/
theorem Formula.exists_of_fits {ts : List Token} (fits : Fits ts)
    (balanced : Token.balance ts = .ok ()) : ∃ w : Formula, w.tokens = ts := by
  obtain ⟨calls, run⟩ := fits
  have nested : ts.foldlM Token.nest Place.start.calls.length = .ok 0 := by
    rw [Token.balance] at balanced
    split at balanced
    · cases balanced
    · assumption
    · cases balanced
  obtain ⟨finished, none⟩ := Unfinished.start.runs run nested
  rw [List.nil_append] at finished
  cases finished with
  | operator brackets e =>
    cases brackets with
    | nil => exact ⟨e, rfl⟩
    | cons f brackets => cases none

/-- **Tokens that are no formula are accepted** exactly if some of them stands where it may not
stand, the brackets have their partners, and in postfix order each item finds as many operands as it
takes and one operand is left, of an expression that is not too deep; or there are no items. -/
theorem Formula.accepted_misplaced_iff {ts : List Token} :
    ((∃ e, Expr.ofTokens ts = .ok e) ∧ ¬∃ w : Formula, w.tokens = ts) ↔
      ¬Fits ts ∧ ∃ items, Postfix.ofTokens ts = .ok items ∧
        (items = [] ∨ (items.foldlM Item.finished? 0 = some 1 ∧
          ∀ e : Expr, e.Proper → e.items = items → e.depth ≤ Expr.depthLimit)) := by
  have accepts : (∃ e, Expr.ofTokens ts = .ok e) ↔
      ∃ items, Postfix.ofTokens ts = .ok items ∧ ∃ e, Expr.ofItems items = .ok e := by
    unfold Expr.ofTokens
    cases Postfix.ofTokens ts <;> simp
  simp only [accepts, Expr.exists_ofItems_iff]
  constructor
  · rintro ⟨⟨items, written, counts⟩, misplaced⟩
    refine ⟨fun fits => misplaced (Formula.exists_of_fits fits ?_), items, written, counts⟩
    rw [← Postfix.ofTokens_brackets, written]
    rfl
  · rintro ⟨unfit, accepted⟩
    refine ⟨accepted, ?_⟩
    rintro ⟨w, rfl⟩
    exact unfit w.fits

/-- **Accepted tokens are a formula** exactly if each of them stands where it may stand. -/
theorem Formula.exists_tokens_iff {ts : List Token} {e : Expr}
    (accepted : Expr.ofTokens ts = .ok e) : (∃ w : Formula, w.tokens = ts) ↔ Fits ts := by
  constructor
  · rintro ⟨w, rfl⟩
    exact w.fits
  · intro fits
    refine Formula.exists_of_fits fits ?_
    rw [← Postfix.ofTokens_brackets]
    unfold Expr.ofTokens at accepted
    split at accepted
    · cases accepted
    · rename_i items written
      rw [written]
      rfl

/-- A sum in the arguments of a call. -/
theorem Formula.exists_tokens_call :
    let ts : List Token := [.name "max", .leftBracket, .number 1, .plus, .minus, .number 2, .comma,
      .name "pi", .leftBracket, .rightBracket, .rightBracket]
    let e : Expr := .call .max [.binary .add (.number 1) (.unary .negate (.number 2)), .call .pi []]
    Expr.ofTokens ts = .ok e ∧ ∃ w : Formula, w.tokens = ts := by
  intro ts e
  have accepted : Expr.ofTokens ts = .ok e := rfl
  exact ⟨accepted, (Formula.exists_tokens_iff accepted).2 ⟨[], rfl⟩⟩

/-- Two operands side by side and an operator behind them. -/
theorem Formula.ofTokens_operator_last :
    let ts : List Token := [.number 4, .number 5, .plus]
    Expr.ofTokens ts = .ok (.binary .add (.number 4) (.number 5)) ∧
      ¬∃ w : Formula, w.tokens = ts := by
  intro ts
  refine ⟨rfl, ?_⟩
  rintro ⟨w, tokens⟩
  obtain ⟨calls, run⟩ := w.fits
  rw [tokens] at run
  cases run

end Spreadsheet
