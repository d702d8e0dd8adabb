import Spreadsheet.Proofs.Formula.Precedence

/-!
# What can be built from items

The finished subtrees account for the items treated so far: they are proper expressions, none too
deep, and their items, from the bottom of the stack to its top, are those treated
(`Expr.Accounts`). One step keeps this (`Accounts.build`). So some items give an expression exactly
if they are the items of a proper expression that is not too deep (`Expr.ofItems_eq_ok_iff`), and
whether there is such an expression of any depth is found by counting operands
(`Expr.exists_items_iff`).
-/

namespace Spreadsheet

/-- A function is found by its own name only. -/
theorem Builtin.name_of_ofName? {s : String} {f : Builtin} (h : ofName? s = some f) :
    f.name = s := by
  simpa using List.find?_some h

namespace Expr

variable {items : List Item} {item : Item} {nodes nodes' : List Built} {es : List Expr}

theorem itemsArgs_append (xs ys : List Expr) :
    itemsArgs (xs ++ ys) = itemsArgs xs ++ itemsArgs ys := by
  induction xs with
  | nil => rw [itemsArgs, List.nil_append, List.nil_append]
  | cons x xs ih => rw [List.cons_append, itemsArgs, itemsArgs, ih, List.append_assoc]

theorem itemsArgs_singleton (e : Expr) : itemsArgs [e] = e.items := by
  rw [itemsArgs, itemsArgs, List.append_nil]

/-- The items of a stack of expressions, the top of which is pushed last. -/
theorem itemsArgs_reverse_cons (e : Expr) (es : List Expr) :
    itemsArgs (e :: es).reverse = itemsArgs es.reverse ++ e.items := by
  rw [List.reverse_cons, itemsArgs_append, itemsArgs_singleton]

theorem properArgs_iff : ProperArgs es ↔ ∀ e ∈ es, e.Proper := by
  induction es with
  | nil => simp [ProperArgs]
  | cons e es ih => simp [ProperArgs, ih]

/-! ## One step -/

/-- The finished subtrees, the last first, are proper expressions, none too deep, and the items are
theirs. -/
def Accounts (nodes : List Built) (items : List Item) : Prop :=
  ∃ es : List Expr, nodes = es.map built ∧ (∀ e ∈ es, e.Proper ∧ e.depth ≤ depthLimit) ∧
    itemsArgs es.reverse = items

/-- The arguments of a call are the last subtrees, in the order in which they were finished. -/
theorem combine_call_eq {name : String} {function : Builtin}
    (found : Builtin.ofName? name = some function) (enough : function.arity ≤ es.length) :
    combine (es.map built) (.call name) =
      .ok ((Expr.call function (es.take function.arity).reverse).built,
        (es.drop function.arity).map built) := by
  obtain rfl := Builtin.name_of_ofName? found
  have count : (es.take function.arity).reverse.length = function.arity := by
    rw [List.length_reverse, List.length_take, Nat.min_eq_left enough]
  have parts : es.map built =
      (es.take function.arity).reverse.reverse.map built ++ (es.drop function.arity).map built := by
    rw [List.reverse_reverse, ← List.map_append, List.take_append_drop]
  rw [parts]
  exact combine_call _ count

/-- An item makes a proper expression with some of the expressions on a stack, and leaves the
others; the items of what is on the stack grow by the item. -/
structure Roots (item : Item) (es : List Expr) (e : Expr) (left : List Expr) : Prop where
  proper : e.Proper
  old : ∀ x ∈ left, x ∈ es
  written : itemsArgs left.reverse ++ e.items = itemsArgs es.reverse ++ [item]

theorem roots_leaf {e : Expr} (proper : e.Proper) (written : e.items = [item]) :
    Roots item es e es where
  proper := proper
  old _ hx := hx
  written := by rw [written]

theorem roots_unary {op : UnaryOp} {e : Expr} (proper : e.Proper) :
    Roots (.unary op) (e :: es) (.unary op e) es where
  proper := by
    rw [Proper]
    exact proper
  old _ hx := List.mem_cons_of_mem _ hx
  written := by rw [itemsArgs_reverse_cons, Expr.items, List.append_assoc]

theorem roots_binary {op : BinaryOp} {left right : Expr} (hl : left.Proper) (hr : right.Proper) :
    Roots (.binary op) (right :: left :: es) (.binary op left right) es where
  proper := by
    rw [Proper]
    exact ⟨hl, hr⟩
  old _ hx := List.mem_cons_of_mem _ (List.mem_cons_of_mem _ hx)
  written := by
    rw [itemsArgs_reverse_cons, itemsArgs_reverse_cons, Expr.items]
    simp only [List.append_assoc]

theorem roots_call {name : String} {function : Builtin}
    (found : Builtin.ofName? name = some function) (enough : function.arity ≤ es.length)
    (proper : ∀ e ∈ es, e.Proper) :
    Roots (.call name) es (.call function (es.take function.arity).reverse)
      (es.drop function.arity) where
  proper := by
    rw [Proper, properArgs_iff]
    refine ⟨by simp [enough], fun e he => proper e ?_⟩
    exact List.mem_of_mem_take (List.mem_reverse.1 he)
  old _ hx := List.mem_of_mem_drop hx
  written := by
    rw [Expr.items, Builtin.name_of_ofName? found, ← List.append_assoc, ← itemsArgs_append,
      ← List.reverse_append, List.take_append_drop]

/-- **The new subtree** is that of an expression with the item as its root. -/
theorem combine_eq_ok {node : Built} {rest : List Built} (proper : ∀ e ∈ es, e.Proper)
    (h : combine (es.map built) item = .ok (node, rest)) :
    ∃ (e : Expr) (left : List Expr), node = e.built ∧ rest = left.map built ∧
      Roots item es e left := by
  cases item with
  | number x =>
    cases h
    exact ⟨.number x, es, rfl, rfl, roots_leaf trivial rfl⟩
  | text s =>
    cases h
    exact ⟨.text s, es, rfl, rfl, roots_leaf trivial rfl⟩
  | reference a =>
    cases h
    exact ⟨.reference a, es, rfl, rfl, roots_leaf trivial rfl⟩
  | unary op =>
    match es, h with
    | [], h => cases h
    | e :: es, h =>
      cases h
      exact ⟨.unary op e, es, rfl, rfl, roots_unary (proper e List.mem_cons_self)⟩
  | binary op =>
    match es, h with
    | [], h => cases h
    | [_], h => cases h
    | right :: left :: es, h =>
      cases h
      exact ⟨.binary op left right, es, rfl, rfl,
        roots_binary (proper left (by simp)) (proper right (by simp))⟩
  | call name =>
    cases found : Builtin.ofName? name with
    | none =>
      rw [combine, found] at h
      cases h
    | some function =>
      by_cases enough : function.arity ≤ es.length
      · rw [combine_call_eq found enough] at h
        cases h
        exact ⟨_, _, rfl, rfl, roots_call found enough proper⟩
      · rw [combine, found] at h
        simp only [List.length_take, List.length_map] at h
        rw [if_pos (by omega)] at h
        cases h

/-- **A step accounts for its item.** -/
theorem Accounts.build (accounts : Accounts nodes items) (h : build nodes item = .ok nodes') :
    Accounts nodes' (items ++ [item]) := by
  obtain ⟨es, rfl, sound, rfl⟩ := accounts
  unfold Expr.build at h
  split at h
  · cases h
  · rename_i node rest combined
    obtain ⟨e, left, rfl, rfl, roots⟩ := combine_eq_ok (fun e he => (sound e he).1) combined
    split at h
    · cases h
    · rename_i shallow
      cases h
      refine ⟨e :: left, rfl, ?_, ?_⟩
      · intro x hx
        rcases List.mem_cons.1 hx with rfl | hx
        · exact ⟨roots.proper, Nat.le_of_not_lt shallow⟩
        · exact sound x (roots.old x hx)
      · rw [itemsArgs_reverse_cons, roots.written]

/-! ## All steps -/

theorem Accounts.foldlM {rest : List Item} (accounts : Accounts nodes items)
    (h : rest.foldlM Expr.build nodes = .ok nodes') : Accounts nodes' (items ++ rest) := by
  induction rest generalizing nodes items with
  | nil =>
    cases h
    rw [List.append_nil]
    exact accounts
  | cons item rest ih =>
    rw [List.foldlM_cons] at h
    cases first : Expr.build nodes item with
    | error e =>
      rw [first] at h
      cases h
    | ok nodes₁ =>
      rw [first] at h
      have accounts' := ih (accounts.build first) h
      rwa [List.append_assoc] at accounts'

theorem accounts_nil : Accounts [] [] := ⟨[], rfl, by simp, rfl⟩

/-- **Some items give an expression** exactly if they are the items of it, it is proper and it is
not too deep. No items at all give an empty text. -/
theorem ofItems_eq_ok_iff {e : Expr} : ofItems items = .ok e ↔
    (items = [] ∧ e = .text "") ∨ (e.Proper ∧ e.depth ≤ depthLimit ∧ e.items = items) := by
  constructor
  · intro h
    unfold ofItems at h
    split at h
    · cases h
    · rename_i done
      cases h
      obtain ⟨es, stack, -, written⟩ := accounts_nil.foldlM done
      obtain rfl : es = [] := by simpa using stack
      exact Or.inl ⟨written.symm, rfl⟩
    · rename_i node done
      cases h
      obtain ⟨es, stack, sound, written⟩ := accounts_nil.foldlM done
      obtain ⟨e, rfl, rfl⟩ : ∃ e, es = [e] ∧ node = e.built := by
        match es, stack with
        | [e], stack => exact ⟨e, rfl, (List.cons.inj stack).1⟩
      obtain ⟨proper, shallow⟩ := sound e List.mem_cons_self
      refine Or.inr ⟨proper, shallow, ?_⟩
      rw [List.reverse_singleton, itemsArgs_singleton] at written
      exact written
    · cases h
  · rintro (⟨rfl, rfl⟩ | ⟨proper, shallow, rfl⟩)
    · rfl
    · rw [ofItems_items proper, if_pos shallow]

end Expr

/-! ## Counting operands -/

/-- The number of finished operands after an item, if the item finds as many as it takes and its
name, if it has one, is that of a function. -/
def Item.finished? (count : Nat) : Item → Option Nat
  | .number _ | .text _ | .reference _ => some (count + 1)
  | .unary _ => if 1 ≤ count then some count else none
  | .binary _ => if 2 ≤ count then some (count - 1) else none
  | .call name =>
    match Builtin.ofName? name with
    | none => none
    | some function =>
      if function.arity ≤ count then some (count - function.arity + 1) else none

namespace Expr

variable {items : List Item} {item : Item} {es : List Expr} {n : Nat}

mutual

/-- The items of a proper expression add one operand to those that are finished. -/
theorem finished_items : ∀ (e : Expr) (n : Nat), e.Proper →
    e.items.foldlM Item.finished? n = some (n + 1)
  | .number _, _, _ => rfl
  | .text _, _, _ => rfl
  | .reference _, _, _ => rfl
  | .unary op operand, n, proper => by
    rw [Proper] at proper
    rw [items, List.foldlM_append, finished_items operand n proper]
    simp [Item.finished?]
  | .binary op left right, n, proper => by
    rw [Proper] at proper
    rw [items, List.foldlM_append, List.foldlM_append, finished_items left n proper.1,
      Option.bind_eq_bind, Option.bind_some, finished_items right (n + 1) proper.2]
    simp [Item.finished?]
  | .call function args, n, proper => by
    rw [Proper] at proper
    rw [items, List.foldlM_append, finished_itemsArgs args n proper.2]
    simp [Item.finished?, Builtin.ofName?_name, proper.1]
  | .error _, _, proper => by
    rw [Proper] at proper
    exact proper.elim

theorem finished_itemsArgs : ∀ (args : List Expr) (n : Nat), ProperArgs args →
    (itemsArgs args).foldlM Item.finished? n = some (n + args.length)
  | [], _, _ => rfl
  | arg :: args, n, proper => by
    rw [ProperArgs] at proper
    rw [itemsArgs, List.foldlM_append, finished_items arg n proper.1, Option.bind_eq_bind,
      Option.bind_some, finished_itemsArgs args (n + 1) proper.2, List.length_cons]
    congr 1
    omega

end

/-- An item that finds as many operands as it takes makes a proper expression of them. -/
theorem exists_roots (proper : ∀ e ∈ es, e.Proper) (h : item.finished? es.length = some n) :
    ∃ (e : Expr) (left : List Expr), Roots item es e left ∧ left.length + 1 = n := by
  cases item with
  | number x =>
    cases h
    exact ⟨.number x, es, roots_leaf trivial rfl, rfl⟩
  | text s =>
    cases h
    exact ⟨.text s, es, roots_leaf trivial rfl, rfl⟩
  | reference a =>
    cases h
    exact ⟨.reference a, es, roots_leaf trivial rfl, rfl⟩
  | unary op =>
    match es, h with
    | e :: es, h =>
      obtain rfl : es.length + 1 = n := by simpa [Item.finished?] using h
      exact ⟨.unary op e, es, roots_unary (proper e List.mem_cons_self), rfl⟩
  | binary op =>
    match es, h with
    | [_], h => cases h
    | right :: left :: es, h =>
      obtain rfl : es.length + 1 = n := by simpa [Item.finished?] using h
      exact ⟨.binary op left right, es,
        roots_binary (proper left (by simp)) (proper right (by simp)), rfl⟩
  | call name =>
    cases found : Builtin.ofName? name with
    | none => simp [Item.finished?, found] at h
    | some function =>
      simp only [Item.finished?, found] at h
      split at h
      · rename_i enough
        cases h
        exact ⟨_, _, roots_call found enough proper, by rw [List.length_drop]⟩
      · cases h

/-- Items that find as many operands as they take make proper expressions of them. -/
theorem exists_itemsArgs (proper : ∀ e ∈ es, e.Proper)
    (h : items.foldlM Item.finished? es.length = some n) :
    ∃ es' : List Expr, (∀ e ∈ es', e.Proper) ∧ es'.length = n ∧
      itemsArgs es'.reverse = itemsArgs es.reverse ++ items := by
  induction items generalizing es with
  | nil =>
    cases h
    exact ⟨es, proper, rfl, by rw [List.append_nil]⟩
  | cons item items ih =>
    rw [List.foldlM_cons, Option.bind_eq_bind, Option.bind_eq_some_iff] at h
    obtain ⟨m, first, others⟩ := h
    obtain ⟨e, left, roots, rfl⟩ := exists_roots proper first
    have proper' : ∀ x ∈ e :: left, x.Proper := by
      intro x hx
      rcases List.mem_cons.1 hx with rfl | hx
      · exact roots.proper
      · exact proper x (roots.old x hx)
    obtain ⟨es', proper', length, written⟩ := ih proper' others
    refine ⟨es', proper', length, ?_⟩
    rw [written, itemsArgs_reverse_cons, roots.written, List.append_assoc]
    rfl

/-- **Some items are those of a proper expression** exactly if each of them finds as many operands
as it takes and one operand is left. -/
theorem exists_items_iff : (∃ e : Expr, e.Proper ∧ e.items = items) ↔
    items.foldlM Item.finished? 0 = some 1 := by
  constructor
  · rintro ⟨e, proper, rfl⟩
    exact finished_items e 0 proper
  · intro counts
    have none : ∀ e ∈ ([] : List Expr), e.Proper := by simp
    obtain ⟨es, proper, length, written⟩ := exists_itemsArgs none counts
    obtain ⟨e, rfl⟩ := List.length_eq_one_iff.1 length
    rw [List.reverse_singleton, itemsArgs_singleton] at written
    exact ⟨e, proper e List.mem_cons_self, written⟩

/-- **Some items give an expression at all** exactly if there are none, or each of them finds as
many operands as it takes, one operand is left, and the expression of these is not too deep. -/
theorem exists_ofItems_iff : (∃ e, ofItems items = .ok e) ↔
    items = [] ∨ (items.foldlM Item.finished? 0 = some 1 ∧
      ∀ e : Expr, e.Proper → e.items = items → e.depth ≤ depthLimit) := by
  constructor
  · rintro ⟨e, h⟩
    rcases ofItems_eq_ok_iff.1 h with ⟨none, -⟩ | ⟨proper, -, rfl⟩
    · exact Or.inl none
    · refine Or.inr ⟨finished_items e 0 proper, fun e' proper' same => ?_⟩
      rw [← same, ofItems_items proper'] at h
      split at h
      · assumption
      · cases h
  · rintro (rfl | ⟨counts, shallow⟩)
    · exact ⟨_, rfl⟩
    · obtain ⟨e, proper, written⟩ := exists_items_iff.2 counts
      exact ⟨e, ofItems_eq_ok_iff.2 (Or.inr ⟨proper, shallow e proper written, written⟩)⟩

end Expr

end Spreadsheet
