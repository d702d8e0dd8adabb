import Mathlib
import Spreadsheet.Proofs.Formula.Items

/-!
# Numbers of arguments

A call takes as many finished operands as its function has arguments, wherever they were written, so
only the number of operands decides whether a formula is accepted (`Formula.ofTokens_eq_error_iff`).
An item adds a fixed number of operands to those below it, fewer than none if it joins some
(`Item.gain`), and the items of a formula add one operand and, for each call, its surplus arguments
(`Formula.gain_items`). Hence wrong numbers of arguments are found, unless the formula has both a
call with too many arguments and another one with too few (`Formula.ofTokens_miscounted`).
-/

namespace Spreadsheet

/-! ## Calls -/

/-- A call as it is written: its name and the number of its arguments. -/
structure WrittenCall where
  name : String
  count : Nat

namespace WrittenCall

/-- The number of arguments that the call should have. A name that is none of a function should
have none. -/
def wanted (name : String) : Nat :=
  match Builtin.ofName? name with
  | some function => function.arity
  | none => 0

/-- How many arguments there are beyond those that should be there. -/
def surplus (c : WrittenCall) : Int := c.count - wanted c.name

/-- The function of the call takes fewer arguments. -/
def TooMany (c : WrittenCall) : Prop :=
  ∃ function, Builtin.ofName? c.name = some function ∧ function.arity < c.count

/-- The function of the call takes more arguments. -/
def TooFew (c : WrittenCall) : Prop :=
  ∃ function, Builtin.ofName? c.name = some function ∧ c.count < function.arity

/-- The function of the call takes another number of arguments. -/
def Wrong (c : WrittenCall) : Prop :=
  ∃ function, Builtin.ofName? c.name = some function ∧ c.count ≠ function.arity

end WrittenCall

mutual

/-- The calls in an operand. -/
def Operand.calls : Operand → List WrittenCall
  | .number _ | .text _ | .reference _ => []
  | .signed _ x => x.calls
  | .bracketed e => e.calls
  | .call name args => ⟨name, args.length⟩ :: Formula.argCalls args

/-- The calls in a formula. -/
def Formula.calls : Formula → List WrittenCall
  | .operand x => x.calls
  | .binary left _ right => left.calls ++ right.calls

/-- The calls in some formulas. -/
def Formula.argCalls : List Formula → List WrittenCall
  | [] => []
  | e :: es => e.calls ++ Formula.argCalls es

end

/-- Some call to a function has a wrong number of arguments. -/
def Formula.Miscounted (e : Formula) : Prop := ∃ c ∈ e.calls, c.Wrong

/-! ## Gains -/

/-- How many operands an item adds to the finished ones. -/
def Item.gain : Item → Int
  | .number _ | .text _ | .reference _ => 1
  | .unary _ => 0
  | .binary _ => -1
  | .call name => 1 - WrittenCall.wanted name

/-- How many operands some items add to the finished ones. -/
def totalGain (items : List Item) : Int := (items.map Item.gain).sum

theorem totalGain_append (items items' : List Item) :
    totalGain (items ++ items') = totalGain items + totalGain items' := by
  rw [totalGain, List.map_append, List.sum_append, totalGain, totalGain]

theorem totalGain_singleton (item : Item) : totalGain [item] = item.gain := by
  simp [totalGain]

theorem totalGain_perm {items items' : List Item} (perm : items.Perm items') :
    totalGain items = totalGain items' := (perm.map Item.gain).sum_eq

/-- **The gain of an item** is what it adds to the operands that are finished. -/
theorem Item.gain_of_finished? {item : Item} {m n : Nat} (h : item.finished? m = some n) :
    (n : Int) = m + item.gain := by
  cases item with
  | number | text | reference =>
    cases h
    simp [gain]
  | unary op =>
    simp only [finished?, Option.ite_none_right_eq_some, Option.some.injEq] at h
    simp only [gain]
    omega
  | binary op =>
    simp only [finished?, Option.ite_none_right_eq_some, Option.some.injEq] at h
    simp only [gain]
    omega
  | call name =>
    cases found : Builtin.ofName? name with
    | none => simp [finished?, found] at h
    | some function =>
      simp only [finished?, found, Option.ite_none_right_eq_some, Option.some.injEq] at h
      simp only [gain, WrittenCall.wanted, found]
      omega

theorem totalGain_of_finished {items : List Item} {m n : Nat}
    (h : items.foldlM Item.finished? m = some n) : (n : Int) = m + totalGain items := by
  induction items generalizing m with
  | nil =>
    cases h
    simp [totalGain]
  | cons item items ih =>
    rw [List.foldlM_cons, Option.bind_eq_bind, Option.bind_eq_some_iff] at h
    obtain ⟨k, first, others⟩ := h
    have one := Item.gain_of_finished? first
    have rest := ih others
    rw [← List.singleton_append, totalGain_append, totalGain_singleton]
    omega

/-- All surplus arguments of some calls. -/
def totalSurplus (calls : List WrittenCall) : Int := (calls.map WrittenCall.surplus).sum

theorem totalSurplus_append (calls calls' : List WrittenCall) :
    totalSurplus (calls ++ calls') = totalSurplus calls + totalSurplus calls' := by
  rw [totalSurplus, List.map_append, List.sum_append, totalSurplus, totalSurplus]

theorem totalSurplus_cons (c : WrittenCall) (calls : List WrittenCall) :
    totalSurplus (c :: calls) = c.surplus + totalSurplus calls := by
  rw [totalSurplus, List.map_cons, List.sum_cons, totalSurplus]

mutual

/-- The items of an operand add one operand and all surplus arguments of its calls. -/
theorem Operand.gain_items : ∀ x : Operand, totalGain x.items = 1 + totalSurplus x.calls
  | .number _ => by
    simp [Operand.items, Operand.calls, totalGain_singleton, Item.gain, totalSurplus]
  | .text _ => by
    simp [Operand.items, Operand.calls, totalGain_singleton, Item.gain, totalSurplus]
  | .reference _ => by
    simp [Operand.items, Operand.calls, totalGain_singleton, Item.gain, totalSurplus]
  | .signed op x => by
    have inner := Operand.gain_items x
    rw [Operand.items, Operand.calls]
    split
    · rw [← List.singleton_append, totalGain_append, totalGain_singleton, Item.gain, inner]
      omega
    · rw [totalGain_append, totalGain_singleton, Item.gain, inner]
      omega
  | .bracketed e => by
    rw [Operand.items, Operand.calls]
    exact Formula.gain_items e
  | .call name args => by
    rw [Operand.items, Operand.calls, totalGain_append, Formula.gain_argItems args,
      totalGain_singleton, Item.gain, totalSurplus_cons, WrittenCall.surplus]
    dsimp only
    omega

/-- **The items of a formula add one operand and all surplus arguments of its calls.** -/
theorem Formula.gain_items : ∀ e : Formula, totalGain e.items = 1 + totalSurplus e.calls
  | .operand x => by
    rw [Formula.items, Formula.groupedItems, Formula.calls]
    exact Operand.gain_items x
  | .binary left op right => by
    rw [totalGain_perm (Formula.items_binary_perm left op right), totalGain_append,
      totalGain_append, Formula.gain_items left, Operand.gain_items right, totalGain_singleton,
      Item.gain, Formula.calls, totalSurplus_append]
    omega

theorem Formula.gain_argItems : ∀ es : List Formula,
    totalGain (Formula.argItems es) = es.length + totalSurplus (Formula.argCalls es)
  | [] => by simp [Formula.argItems, Formula.argCalls, totalGain, totalSurplus]
  | e :: es => by
    have first := Formula.gain_items e
    rw [Formula.items] at first
    rw [Formula.argItems, Formula.argCalls, totalGain_append, first, Formula.gain_argItems es,
      totalSurplus_append, List.length_cons]
    omega

end

/-! ## Names -/

/-- Items that find their operands have only the names of functions. -/
theorem exists_function_of_finished {items : List Item} {m n : Nat} {name : String}
    (h : items.foldlM Item.finished? m = some n) (called : Item.call name ∈ items) :
    ∃ function, Builtin.ofName? name = some function := by
  induction items generalizing m with
  | nil => cases called
  | cons item items ih =>
    rw [List.foldlM_cons, Option.bind_eq_bind, Option.bind_eq_some_iff] at h
    obtain ⟨k, first, others⟩ := h
    rcases List.mem_cons.1 called with rfl | called
    · cases found : Builtin.ofName? name with
      | none => simp [Item.finished?, found] at first
      | some function => exact ⟨function, rfl⟩
    · exact ih others called

mutual

theorem Operand.call_mem_items : ∀ (x : Operand), ∀ c ∈ x.calls, Item.call c.name ∈ x.items
  | .number _, _, hc => by simp [Operand.calls] at hc
  | .text _, _, hc => by simp [Operand.calls] at hc
  | .reference _, _, hc => by simp [Operand.calls] at hc
  | .signed op x, c, hc => by
    rw [Operand.calls] at hc
    have inner := Operand.call_mem_items x c hc
    rw [Operand.items]
    split <;> simp [inner]
  | .bracketed e, c, hc => by
    rw [Operand.calls] at hc
    rw [Operand.items]
    exact Formula.call_mem_items e c hc
  | .call name args, c, hc => by
    rw [Operand.calls] at hc
    rw [Operand.items]
    rcases List.mem_cons.1 hc with rfl | hc
    · simp
    · exact List.mem_append_left _ (Formula.call_mem_argItems args c hc)

/-- The names of the calls in a formula are among its items. -/
theorem Formula.call_mem_items : ∀ (e : Formula), ∀ c ∈ e.calls, Item.call c.name ∈ e.items
  | .operand x, c, hc => by
    rw [Formula.calls] at hc
    rw [Formula.items, Formula.groupedItems]
    exact Operand.call_mem_items x c hc
  | .binary left op right, c, hc => by
    rw [Formula.calls] at hc
    rw [(Formula.items_binary_perm left op right).mem_iff]
    rcases List.mem_append.1 hc with hc | hc
    · exact List.mem_append_left _ (Formula.call_mem_items left c hc)
    · exact List.mem_append_right _ (List.mem_append_left _ (Operand.call_mem_items right c hc))

theorem Formula.call_mem_argItems : ∀ (es : List Formula), ∀ c ∈ Formula.argCalls es,
    Item.call c.name ∈ Formula.argItems es
  | [], _, hc => by simp [Formula.argCalls] at hc
  | e :: es, c, hc => by
    rw [Formula.argCalls] at hc
    rw [Formula.argItems]
    rcases List.mem_append.1 hc with hc | hc
    · exact List.mem_append_left _ (Formula.call_mem_items e c hc)
    · exact List.mem_append_right _ (Formula.call_mem_argItems es c hc)

end

/-! ## Wrong numbers of arguments -/

namespace WrittenCall

variable {c : WrittenCall} {calls : List WrittenCall} {function : Builtin}

theorem surplus_of_found (found : Builtin.ofName? c.name = some function) :
    c.surplus = c.count - function.arity := by
  rw [surplus, wanted, found]

theorem Wrong.surplus_ne_zero (h : c.Wrong) : c.surplus ≠ 0 := by
  obtain ⟨function, found, differ⟩ := h
  rw [surplus_of_found found]
  omega

theorem tooMany_of_surplus_pos (found : Builtin.ofName? c.name = some function)
    (positive : 0 < c.surplus) : c.TooMany := by
  rw [surplus_of_found found] at positive
  exact ⟨function, found, by omega⟩

theorem tooFew_of_surplus_neg (found : Builtin.ofName? c.name = some function)
    (negative : c.surplus < 0) : c.TooFew := by
  rw [surplus_of_found found] at negative
  exact ⟨function, found, by omega⟩

/-- Where the surpluses are made up for, one that is not zero comes with a positive one and a
negative one. -/
theorem exists_pos_neg (balanced : totalSurplus calls = 0) (hc : c ∈ calls)
    (wrong : c.surplus ≠ 0) : (∃ c ∈ calls, 0 < c.surplus) ∧ ∃ c ∈ calls, c.surplus < 0 := by
  have none : (calls.map fun _ => (0 : Int)).sum = 0 := by simp
  constructor
  · by_contra! all
    have less := List.sum_lt_sum surplus (fun _ => 0) all ⟨c, hc, lt_of_le_of_ne (all c hc) wrong⟩
    rw [none] at less
    exact absurd balanced less.ne
  · by_contra! all
    have more := List.sum_lt_sum (fun _ => 0) surplus all
      ⟨c, hc, lt_of_le_of_ne (all c hc) wrong.symm⟩
    rw [none] at more
    exact absurd balanced more.ne'

end WrittenCall

/-- If each item of a formula finds its operands and one is left, then the surplus arguments of some
calls are made up for by others, and all calls are to functions. -/
theorem Formula.surplus_calls {w : Formula} (counts : w.items.foldlM Item.finished? 0 = some 1) :
    totalSurplus w.calls = 0 ∧
      ∀ c ∈ w.calls, ∃ function, Builtin.ofName? c.name = some function := by
  constructor
  · have one := totalGain_of_finished counts
    rw [w.gain_items] at one
    omega
  · intro c hc
    exact exists_function_of_finished counts (w.call_mem_items c hc)

/-- **A formula is rejected** exactly if some item does not find its operands or more than one is
left, or if its expression is nested too deep. -/
theorem Formula.ofTokens_eq_error_iff {w : Formula} :
    (∃ err, Expr.ofTokens w.tokens = .error err) ↔
      w.items.foldlM Item.finished? 0 ≠ some 1 ∨
        ∃ e : Expr, e.Proper ∧ e.items = w.items ∧ Expr.depthLimit < e.depth := by
  constructor
  · intro ⟨err, rejected⟩
    by_cases counts : w.items.foldlM Item.finished? 0 = some 1
    · obtain ⟨e, proper, written⟩ := Expr.exists_items_iff.2 counts
      refine Or.inr ⟨e, proper, written, ?_⟩
      by_contra shallow
      have accepted : Expr.ofTokens w.tokens = .ok e :=
        Formula.ofTokens_eq_ok_iff.2 ⟨proper, Nat.le_of_not_lt shallow, written⟩
      rw [rejected] at accepted
      cases accepted
    · exact Or.inl counts
  · rintro (counts | ⟨e, proper, written, deep⟩)
    · cases parsed : Expr.ofTokens w.tokens with
      | error err => exact ⟨err, rfl⟩
      | ok e =>
        obtain ⟨proper, -, written⟩ := Formula.ofTokens_eq_ok_iff.1 parsed
        exact absurd (Expr.exists_items_iff.1 ⟨e, proper, written⟩) counts
    · refine ⟨.tooDeeplyNested Expr.depthLimit, ?_⟩
      rw [Expr.ofTokens, Formula.ofTokens_tokens, ← written]
      dsimp only
      rw [Expr.ofItems_items proper, if_neg (Nat.not_le_of_lt deep)]

/-- **A formula with a wrong number of arguments** is rejected exactly if its operands do not come
out even or it is nested too deep. If it is accepted, one of the calls takes what another one has
too much: some call has too many arguments and some call too few. -/
theorem Formula.ofTokens_miscounted {w : Formula} (miscounted : w.Miscounted) :
    ((∃ err, Expr.ofTokens w.tokens = .error err) ↔
        w.items.foldlM Item.finished? 0 ≠ some 1 ∨
          ∃ e : Expr, e.Proper ∧ e.items = w.items ∧ Expr.depthLimit < e.depth) ∧
      ∀ e : Expr, Expr.ofTokens w.tokens = .ok e →
        (∃ c ∈ w.calls, c.TooMany) ∧ ∃ c ∈ w.calls, c.TooFew := by
  refine ⟨Formula.ofTokens_eq_error_iff, ?_⟩
  intro e parsed
  obtain ⟨proper, -, written⟩ := Formula.ofTokens_eq_ok_iff.1 parsed
  have counts := Expr.exists_items_iff.1 ⟨e, proper, written⟩
  obtain ⟨balanced, known⟩ := Formula.surplus_calls counts
  obtain ⟨c, hc, wrong⟩ := miscounted
  obtain ⟨⟨c₁, h₁, positive⟩, c₂, h₂, negative⟩ :=
    WrittenCall.exists_pos_neg balanced hc wrong.surplus_ne_zero
  obtain ⟨f₁, found₁⟩ := known c₁ h₁
  obtain ⟨f₂, found₂⟩ := known c₂ h₂
  exact ⟨⟨c₁, h₁, WrittenCall.tooMany_of_surplus_pos found₁ positive⟩,
    c₂, h₂, WrittenCall.tooFew_of_surplus_neg found₂ negative⟩

/-- A call with too few arguments around a call that has as many as it should. -/
theorem Formula.ofTokens_too_few :
    let w : Formula := .operand (.call "max" [.operand (.call "sin" [.operand (.number 1)])])
    w.Miscounted ∧ ∃ err, Expr.ofTokens [.name "max", .leftBracket, .name "sin", .leftBracket,
      .number 1, .rightBracket, .rightBracket] = .error err := by
  intro w
  have miscounted : w.Miscounted := ⟨⟨"max", 1⟩, List.mem_cons_self, .max, by decide, by decide⟩
  refine ⟨miscounted, ?_⟩
  cases parsed : Expr.ofTokens w.tokens with
  | error err => exact ⟨err, parsed⟩
  | ok e =>
    -- no call has too many arguments that could stand in for the one that is missing
    obtain ⟨⟨c, hc, function, found, more⟩, -⟩ :=
      (Formula.ofTokens_miscounted miscounted).2 e parsed
    have sites : w.calls = [⟨"max", 1⟩, ⟨"sin", 1⟩] := rfl
    rw [sites] at hc
    rcases List.mem_cons.1 hc with rfl | hc
    · obtain rfl : Builtin.max = function := Option.some.inj found
      exact absurd more (by decide)
    · obtain rfl := List.mem_singleton.1 hc
      obtain rfl : Builtin.sin = function := Option.some.inj found
      exact absurd more (by decide)

/-- The outer call takes the argument that the inner call has too much. -/
theorem Formula.ofTokens_surplus_taken :
    let w : Formula := .operand (.call "max"
      [.operand (.call "sin" [.operand (.number 1), .operand (.number 2)])])
    w.Miscounted ∧
      w.tokens = [.name "max", .leftBracket, .name "sin", .leftBracket, .number 1, .comma,
        .number 2, .rightBracket, .rightBracket] ∧
      Expr.ofTokens w.tokens = .ok (.call .max [.number 1, .call .sin [.number 2]]) := by
  intro w
  exact ⟨⟨⟨"max", 1⟩, List.mem_cons_self, .max, by decide, by decide⟩, rfl, rfl⟩

end Spreadsheet
