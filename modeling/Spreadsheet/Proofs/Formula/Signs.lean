import Spreadsheet.Proofs.Formula.Items

/-!
# Signs in front of operands

A formula gives its expression exactly if no sign stands directly behind another one
(`Formula.ofTokens_eq_tree_iff`). A sign that stands behind another one releases it before the
operand has been written; the items of the formula are then not those of its expression, since both
have the same length and no proper expression starts with a sign (`Formula.groupedItems_eq_iff`).
-/

namespace Spreadsheet

/-! ## Groups -/

namespace Grouped

variable {α β : Type} {join : BinaryOp → α → α → α} {join' : BinaryOp → β → β → β} {f : α → β}

/-- Both parts, mapped. -/
def map (f : α → β) (g : Grouped α) : Grouped β :=
  ⟨g.sum.map fun (left, op) => (f left, op), f g.product⟩

theorem whole_map (hf : ∀ op a b, f (join op a b) = join' op (f a) (f b)) (g : Grouped α) :
    (g.map f).whole join' = f (g.whole join) := by
  obtain ⟨sum, product⟩ := g
  cases sum with
  | none => rfl
  | some left => exact (hf _ _ _).symm

theorem push_map (hf : ∀ op a b, f (join op a b) = join' op (f a) (f b)) (g : Grouped α)
    (op : BinaryOp) (x : α) : (g.map f).push join' op (f x) = (g.push join op x).map f := by
  by_cases level : op.level = 1
  · rw [push, push, if_pos level, if_pos level, whole_map hf]
    rfl
  · rw [push, push, if_neg level, if_neg level]
    simp only [map, hf]

variable {g g' : Grouped (List Item)} {op : BinaryOp} {x x' : List Item}

theorem behind_inj {a a' : List Item} (length : a.length = a'.length) :
    op.behind a x = op.behind a' x' ↔ a = a' ∧ x = x' := by
  rw [BinaryOp.behind, BinaryOp.behind, List.append_left_inj]
  constructor
  · intro same
    exact List.append_inj same length
  · rintro ⟨rfl, rfl⟩
    rfl

/-- Groups whose parts have the same lengths are the same if they are the same when joined. -/
theorem whole_inj (length : g.map List.length = g'.map List.length) :
    g.whole BinaryOp.behind = g'.whole BinaryOp.behind ↔ g = g' := by
  obtain ⟨sum, product⟩ := g
  obtain ⟨sum', product'⟩ := g'
  match sum, sum', length with
  | none, none, _ => simp [whole]
  | none, some _, length => cases congrArg Grouped.sum length
  | some _, none, length => cases congrArg Grouped.sum length
  | some (left, op), some (left', op'), length =>
    have same : (left.length, op) = (left'.length, op') :=
      Option.some.inj (congrArg Grouped.sum length)
    obtain ⟨lefts, rfl⟩ := Prod.mk.inj same
    simp only [whole, behind_inj lefts, Grouped.mk.injEq, Option.some.injEq, Prod.mk.injEq,
      and_true]

theorem push_inj (length : g.map List.length = g'.map List.length) :
    g.push BinaryOp.behind op x = g'.push BinaryOp.behind op x' ↔ g = g' ∧ x = x' := by
  by_cases level : op.level = 1
  · rw [push, push, if_pos level, if_pos level]
    simp only [Grouped.mk.injEq, Option.some.injEq, Prod.mk.injEq, and_true, whole_inj length]
  · have products : g.product.length = g'.product.length := congrArg Grouped.product length
    rw [push, push, if_neg level, if_neg level]
    obtain ⟨sum, product⟩ := g
    obtain ⟨sum', product'⟩ := g'
    simp only [Grouped.mk.injEq, behind_inj products, and_assoc]

end Grouped

/-! ## Proper formulas -/

namespace Formula

theorem trees_eq_map (es : List Formula) : trees es = es.map tree := by
  induction es with
  | nil => rw [trees, List.map_nil]
  | cons e es ih => rw [trees, List.map_cons, ih, tree]

theorem proper_binary {left : Formula} {op : BinaryOp} {right : Operand} :
    (binary left op right).tree.Proper ↔ left.tree.Proper ∧ right.tree.Proper := by
  rw [tree, grouped, tree]
  obtain ⟨sum, product⟩ := left.grouped
  by_cases level : op.level = 1
  · rw [Grouped.push, if_pos level]
    simp only [Grouped.whole, Expr.Proper]
  · rw [Grouped.push, if_neg level]
    cases sum with
    | none => simp only [Grouped.whole, Expr.Proper]
    | some sum => simp only [Grouped.whole, Expr.Proper, and_assoc]

end Formula

theorem Operand.proper_call {name : String} {args : List Formula}
    (proper : (Operand.call name args).tree.Proper) :
    ∃ function, (Operand.call name args).tree = .call function (Formula.trees args) ∧
      function.name = name ∧ args.length = function.arity ∧ ∀ e ∈ args, e.tree.Proper := by
  rw [Operand.tree] at proper ⊢
  cases found : Builtin.ofName? name with
  | none =>
    rw [found] at proper
    exact proper.elim
  | some function =>
    rw [found] at proper
    dsimp only at proper ⊢
    rw [Expr.Proper, Expr.properArgs_iff, Formula.trees_eq_map, List.length_map] at proper
    refine ⟨function, rfl, Builtin.name_of_ofName? found, proper.1, fun e he => ?_⟩
    exact proper.2 _ (List.mem_map_of_mem he)

/-! ## Lengths -/

/-- The items of an operator are those of its operands with the operator behind them. -/
theorem Expr.items_binary (op : BinaryOp) (left right : Expr) :
    (Expr.binary op left right).items = op.behind left.items right.items := by
  rw [Expr.items, BinaryOp.behind]

/-- The items of a formula's expression, from those of its groups. -/
theorem Formula.items_tree (e : Formula) :
    e.tree.items = (e.grouped.map Expr.items).whole BinaryOp.behind :=
  (Grouped.whole_map Expr.items_binary e.grouped).symm

theorem Formula.items_grouped_push (left : Formula) (op : BinaryOp) (right : Operand) :
    (binary left op right).grouped.map Expr.items =
      (left.grouped.map Expr.items).push BinaryOp.behind op right.tree.items := by
  rw [grouped]
  exact (Grouped.push_map Expr.items_binary left.grouped op right.tree).symm

/-- The number of items of an operator, from those of its operands. -/
def BinaryOp.lengthBehind (_ : BinaryOp) (left right : Nat) : Nat := left + right + 1

theorem BinaryOp.length_behind (op : BinaryOp) (left right : List Item) :
    (op.behind left right).length = op.lengthBehind left.length right.length := by
  rw [behind, List.length_append, List.length_append, List.length_singleton, lengthBehind]

/-- The length of a group is found from the lengths of its parts. -/
theorem Grouped.length_whole {g g' : Grouped (List Item)}
    (length : g.map List.length = g'.map List.length) :
    (g.whole BinaryOp.behind).length = (g'.whole BinaryOp.behind).length := by
  rw [← whole_map BinaryOp.length_behind g, ← whole_map BinaryOp.length_behind g', length]

mutual

/-- **The items of an operand are as many as those of its expression.** -/
theorem Operand.length_items : ∀ x : Operand, x.tree.Proper →
    x.items.length = x.tree.items.length
  | .number _, _ => rfl
  | .text _, _ => rfl
  | .reference _, _ => rfl
  | .signed op x, proper => by
    rw [Operand.tree, Expr.Proper] at proper
    have length := Operand.length_items x proper
    rw [Operand.items, Operand.tree, Expr.items]
    split <;> simp [length]
  | .bracketed e, proper => by
    rw [Operand.tree] at proper
    rw [Operand.items, Operand.tree]
    exact (Grouped.length_whole (Formula.length_grouped e proper)).trans
      (congrArg List.length e.items_tree).symm
  | .call name args, proper => by
    obtain ⟨function, tree, rfl, -, proper⟩ := Operand.proper_call proper
    rw [tree, Operand.items, Expr.items, List.length_append, List.length_append,
      Formula.length_argItems args proper]
theorem Formula.length_grouped : ∀ e : Formula, e.tree.Proper →
    e.groupedItems.map List.length = (e.grouped.map Expr.items).map List.length
  | .operand x, proper => by
    rw [Formula.tree, Formula.grouped] at proper
    have length := Operand.length_items x proper
    rw [Formula.groupedItems, Formula.grouped]
    simp [Grouped.map, length]
  | .binary left op right, proper => by
    rw [Formula.proper_binary] at proper
    have lengths := Formula.length_grouped left proper.1
    have length := Operand.length_items right proper.2
    rw [Formula.groupedItems, Formula.items_grouped_push,
      ← Grouped.push_map BinaryOp.length_behind, ← Grouped.push_map BinaryOp.length_behind,
      lengths, length]

theorem Formula.length_argItems : ∀ es : List Formula, (∀ e ∈ es, e.tree.Proper) →
    (Formula.argItems es).length = (Expr.itemsArgs (Formula.trees es)).length
  | [], _ => rfl
  | e :: es, proper => by
    have first := Grouped.length_whole (Formula.length_grouped e (proper e List.mem_cons_self))
    have others := Formula.length_argItems es fun e he => proper e (List.mem_cons_of_mem _ he)
    rw [← Formula.items_tree] at first
    rw [Formula.argItems, Formula.trees, Expr.itemsArgs, List.length_append, List.length_append,
      first, others, Formula.tree]

end

/-! ## Signs apart -/

mutual

/-- No sign in the operand stands directly behind another sign. -/
def Operand.SignsApart : Operand → Prop
  | .number _ | .text _ | .reference _ => True
  | .signed _ x => x.isSigned = false ∧ x.SignsApart
  | .bracketed e => e.SignsApart
  | .call _ args => Formula.ArgSignsApart args

/-- No sign in the formula stands directly behind another sign. -/
def Formula.SignsApart : Formula → Prop
  | .operand x => x.SignsApart
  | .binary left _ right => left.SignsApart ∧ right.SignsApart

/-- No sign in some formulas stands directly behind another sign. -/
def Formula.ArgSignsApart : List Formula → Prop
  | [] => True
  | e :: es => e.SignsApart ∧ Formula.ArgSignsApart es

end

/-- The items of a proper expression start with its leftmost operand, and so with no sign. -/
theorem Expr.items_head : ∀ e : Expr, e.Proper →
    ∃ item rest, e.items = item :: rest ∧ ∀ op, item ≠ .unary op
  | .number x, _ => ⟨.number x, [], rfl, fun _ => by simp⟩
  | .text s, _ => ⟨.text s, [], rfl, fun _ => by simp⟩
  | .reference a, _ => ⟨.reference a, [], rfl, fun _ => by simp⟩
  | .unary op operand, proper => by
    rw [Proper] at proper
    obtain ⟨item, rest, items, unsigned⟩ := items_head operand proper
    exact ⟨item, rest ++ [.unary op], by rw [Expr.items, items, List.cons_append], unsigned⟩
  | .binary op left right, proper => by
    rw [Proper] at proper
    obtain ⟨item, rest, items, unsigned⟩ := items_head left proper.1
    refine ⟨item, rest ++ right.items ++ [.binary op], ?_, unsigned⟩
    rw [Expr.items, items, List.cons_append, List.cons_append]
  | .call function [], _ => ⟨.call function.name, [], rfl, fun _ => by simp⟩
  | .call function (arg :: args), proper => by
    rw [Proper, ProperArgs] at proper
    obtain ⟨item, rest, items, unsigned⟩ := items_head arg proper.2.1
    refine ⟨item, rest ++ itemsArgs args ++ [.call function.name], ?_, unsigned⟩
    rw [Expr.items, itemsArgs, items, List.cons_append, List.cons_append]
  | .error _, proper => by
    rw [Proper] at proper
    exact proper.elim

mutual

/-- **An operand has the items of its expression exactly if its signs are apart.** -/
theorem Operand.items_eq_iff : ∀ x : Operand, x.tree.Proper →
    (x.items = x.tree.items ↔ x.SignsApart)
  | .number _, _ => by simp [Operand.items, Operand.tree, Expr.items, Operand.SignsApart]
  | .text _, _ => by simp [Operand.items, Operand.tree, Expr.items, Operand.SignsApart]
  | .reference _, _ => by simp [Operand.items, Operand.tree, Expr.items, Operand.SignsApart]
  | .signed op x, proper => by
    rw [Operand.tree, Expr.Proper] at proper
    have inner := Operand.items_eq_iff x proper
    rw [Operand.items, Operand.tree, Expr.items, Operand.SignsApart]
    cases signed : x.isSigned with
    | true =>
      -- the sign is written in front of the operand, where no proper expression has one
      obtain ⟨item, rest, items, unsigned⟩ := Expr.items_head x.tree proper
      have differ : Item.unary op :: x.items ≠ x.tree.items ++ [.unary op] := by
        intro same
        rw [items, List.cons_append] at same
        exact unsigned op (List.cons.inj same).1.symm
      simp [differ]
    | false => simp [inner]
  | .bracketed e, proper => by
    rw [Operand.tree] at proper
    have groups := Formula.groupedItems_eq_iff e proper
    rw [Operand.items, Operand.tree, Operand.SignsApart, ← groups,
      ← Grouped.whole_inj (Formula.length_grouped e proper), ← Formula.items_tree, Formula.tree]
  | .call name args, proper => by
    obtain ⟨function, tree, rfl, -, proper⟩ := Operand.proper_call proper
    rw [tree, Operand.items, Expr.items, Operand.SignsApart, List.append_left_inj]
    exact Formula.argItems_eq_iff args proper

theorem Formula.groupedItems_eq_iff : ∀ e : Formula, e.tree.Proper →
    (e.groupedItems = e.grouped.map Expr.items ↔ e.SignsApart)
  | .operand x, proper => by
    rw [Formula.tree, Formula.grouped] at proper
    have items := Operand.items_eq_iff x proper
    rw [Formula.groupedItems, Formula.grouped, Formula.SignsApart, ← items]
    simp [Grouped.map]
  | .binary left op right, proper => by
    rw [Formula.proper_binary] at proper
    rw [Formula.groupedItems, Formula.items_grouped_push, Formula.SignsApart,
      Grouped.push_inj (Formula.length_grouped left proper.1),
      Formula.groupedItems_eq_iff left proper.1, Operand.items_eq_iff right proper.2]

theorem Formula.argItems_eq_iff : ∀ es : List Formula, (∀ e ∈ es, e.tree.Proper) →
    (Formula.argItems es = Expr.itemsArgs (Formula.trees es) ↔ Formula.ArgSignsApart es)
  | [], _ => by simp [Formula.argItems, Formula.trees, Expr.itemsArgs, Formula.ArgSignsApart]
  | e :: es, proper => by
    have first := Formula.length_grouped e (proper e List.mem_cons_self)
    have others := Formula.argItems_eq_iff es fun e he => proper e (List.mem_cons_of_mem _ he)
    have split : e.groupedItems.whole BinaryOp.behind ++ Formula.argItems es =
          e.tree.items ++ Expr.itemsArgs (Formula.trees es) ↔
        e.groupedItems.whole BinaryOp.behind = e.tree.items ∧
          Formula.argItems es = Expr.itemsArgs (Formula.trees es) := by
      refine ⟨fun same => List.append_inj same ?_, fun ⟨front, back⟩ => by rw [front, back]⟩
      rw [Formula.items_tree]
      exact Grouped.length_whole first
    rw [Formula.argItems, Formula.trees, Expr.itemsArgs, Formula.ArgSignsApart, ← others,
      ← Formula.groupedItems_eq_iff e (proper e List.mem_cons_self), ← Grouped.whole_inj first,
      ← Formula.items_tree]
    exact split

end

/-! ## Parsing signs -/

theorem Formula.items_eq_iff {e : Formula} (proper : e.tree.Proper) :
    e.items = e.tree.items ↔ e.SignsApart := by
  rw [Formula.items, Formula.items_tree, Grouped.whole_inj (Formula.length_grouped e proper)]
  exact Formula.groupedItems_eq_iff e proper

/-- **Parsing a formula with signs** gives its expression exactly if no sign stands directly behind
another one. -/
theorem Formula.ofTokens_eq_tree_iff {e : Formula} (proper : e.tree.Proper)
    (shallow : e.tree.depth ≤ 512) : Expr.ofTokens e.tokens = .ok e.tree ↔ e.SignsApart := by
  rw [Formula.ofTokens_eq_ok_iff, ← Formula.items_eq_iff proper]
  constructor
  · rintro ⟨-, -, written⟩
    exact written.symm
  · intro same
    exact ⟨proper, shallow, same.symm⟩

/-- One sign in front of each operand. -/
theorem Formula.ofTokens_signs_apart :
    let e : Formula := .binary (.operand (.signed .negate (.number 5))) .subtract
      (.signed .plus (.bracketed (.operand (.signed .negate (.reference ⟨0, 0⟩)))))
    (e.tree.Proper ∧ e.tree.depth ≤ 512 ∧ e.SignsApart) ∧
      Expr.ofTokens [.minus, .number 5, .minus, .plus, .leftBracket, .minus, .reference ⟨0, 0⟩,
        .rightBracket] = .ok e.tree := by
  intro e
  have proper : e.tree.Proper := ⟨trivial, trivial⟩
  have shallow : e.tree.depth ≤ 512 := by decide
  have apart : e.SignsApart := ⟨⟨rfl, trivial⟩, rfl, rfl, trivial⟩
  exact ⟨⟨proper, shallow, apart⟩, (Formula.ofTokens_eq_tree_iff proper shallow).2 apart⟩

/-- Two signs between two operands, behind an operator: the first sign is released by the second and
becomes the left operand's. -/
theorem Formula.ofTokens_two_signs :
    let e : Formula := .binary (.operand (.number 5)) .subtract
      (.signed .negate (.signed .negate (.number 4)))
    e.tokens = [.number 5, .minus, .minus, .minus, .number 4] ∧
      (e.tree = .binary .subtract (.number 5) (.unary .negate (.unary .negate (.number 4))) ∧
        e.tree.Proper ∧ e.tree.depth ≤ 512) ∧
      Expr.ofTokens e.tokens =
        .ok (.binary .subtract (.unary .negate (.number 5)) (.unary .negate (.number 4))) ∧
      Expr.ofTokens e.tokens ≠ .ok e.tree ∧
      Expr.ofTokens [.minus, .minus, .number 4] = .error .unexpectedEndOfInput := by
  intro e
  have parsed : Expr.ofTokens e.tokens =
      .ok (.binary .subtract (.unary .negate (.number 5)) (.unary .negate (.number 4))) := rfl
  refine ⟨rfl, ⟨rfl, ⟨trivial, trivial⟩, by decide⟩, parsed, fun same => ?_, rfl⟩
  -- one tree has a sign as its left operand, the other a number
  cases Except.ok.inj (parsed.symm.trans same)

end Spreadsheet
