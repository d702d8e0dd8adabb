import Spreadsheet.Proofs.Formula.Conservation

/-!
# Levels of an expression

The expression of a text is the error that the text has, or a proper expression of at most
`depthLimit` levels, and the depths that are kept beside the finished subtrees are their depths
(`Expr.ofText_bounded`). So the recursions over the expression of a text, however long, are bounded:
its evaluation under any look-up goes through with `depthLimit` levels, and gives every function as
many arguments as it takes; the search for its references goes through with as many levels.

`Expr.evalWithin` is the evaluation with a bound on the levels; it has no answer for a function with
a wrong number of arguments. It succeeds exactly with the levels that the expression has
(`Expr.evalWithin_eq`), and so does the bounded search for references (`Expr.readsWithin_eq`).
-/

namespace Spreadsheet

namespace Expr

variable {α β γ : Type} {e : Expr} {n : Nat} {args : List Expr} {items : List Item}
  {nodes : List Built}

/-! ## Recursion with a bound -/

/-- The value of an expression, if it has at most `levels` levels and every function gets as many
arguments as it takes. -/
def evalWithin (lookup : Address → Value) : Nat → Expr → Option Value
  | 0, _ => none
  | _ + 1, .number x => some (.number x)
  | _ + 1, .text s => some (.text s)
  | _ + 1, .reference a => some (lookup a)
  | levels + 1, .unary op operand => do
    let x ← evalWithin lookup levels operand
    some (op.apply x)
  | levels + 1, .binary op left right => do
    let x ← evalWithin lookup levels left
    let y ← evalWithin lookup levels right
    some (op.apply x y)
  | levels + 1, .call function args => do
    let values ← args.mapM (evalWithin lookup levels)
    if values.length = function.arity then some (function.apply values) else none
  | _ + 1, .error message => some (.error message)

/-- The addresses that an expression reads, if it has at most `levels` levels. -/
def readsWithin : Nat → Expr → Option (List Address)
  | 0, _ => none
  | _ + 1, .reference a => some [a]
  | levels + 1, .unary _ operand => readsWithin levels operand
  | levels + 1, .binary _ left right => do
    let as ← readsWithin levels left
    let bs ← readsWithin levels right
    some (as ++ bs)
  | levels + 1, .call _ args => do
    let parts ← args.mapM (readsWithin levels)
    some parts.flatten
  | _ + 1, .number _ | _ + 1, .text _ | _ + 1, .error _ => some []

/-! ## The levels that it takes -/

theorem not_depth_le_zero (e : Expr) : ¬e.depth ≤ 0 := by
  cases e <;> simp [depth]

theorem readsArgs_eq_flatten (args : List Expr) : readsArgs args = (args.map reads).flatten := by
  induction args with
  | nil => rw [readsArgs, List.map_nil, List.flatten_nil]
  | cons arg args ih => rw [readsArgs, ih, List.map_cons, List.flatten_cons]

/-- Two results under conditions are one under both conditions. -/
theorem bind_of_conditions {p q : Prop} [Decidable p] [Decidable q] (f : α → β → γ) (a : α) (b : β) :
    ((if p then some a else none) >>= fun x => (if q then some b else none) >>= fun y =>
      some (f x y)) = if p ∧ q then some (f a b) else none := by
  by_cases hp : p
  · by_cases hq : q
    · rw [if_pos hp, if_pos hq, if_pos ⟨hp, hq⟩]
      rfl
    · rw [if_pos hp, if_neg hq, if_neg fun h => hq h.2]
      rfl
  · rw [if_neg hp, if_neg (c := p ∧ q) fun h => hp h.1]
    rfl

/-- The arguments of a call take the levels of the deepest of them. -/
theorem mapM_of_levels {f : Expr → Option α} {g : Expr → α}
    (each : ∀ arg ∈ args, f arg = if arg.depth ≤ n then some (g arg) else none) :
    args.mapM f = if depthArgs args ≤ n then some (args.map g) else none := by
  induction args with
  | nil => simp [depthArgs]
  | cons arg args ih =>
    have others := ih fun x hx => each x (List.mem_cons_of_mem _ hx)
    rw [List.mapM_cons, each arg List.mem_cons_self, others, depthArgs, List.map_cons]
    simp only [Nat.max_le]
    exact bind_of_conditions List.cons _ _

/-- **Evaluation takes as many levels as the expression has**, and every function of a proper
expression gets as many arguments as it takes. -/
theorem evalWithin_eq (lookup : Address → Value) (n : Nat) (e : Expr) (proper : e.Proper) :
    evalWithin lookup n e = if e.depth ≤ n then some (e.eval lookup) else none := by
  induction n generalizing e with
  | zero => rw [evalWithin, if_neg e.not_depth_le_zero]
  | succ n ih =>
    cases e with
    | number x => simp [evalWithin, depth, eval]
    | text s => simp [evalWithin, depth, eval]
    | reference a => simp [evalWithin, depth, eval]
    | unary op operand =>
      rw [Proper] at proper
      rw [evalWithin, ih operand proper, depth, eval]
      simp only [Nat.add_le_add_iff_right]
      by_cases within : operand.depth ≤ n
      · rw [if_pos within, if_pos within]
        rfl
      · rw [if_neg within, if_neg within]
        rfl
    | binary op left right =>
      rw [Proper] at proper
      rw [evalWithin, ih left proper.1, ih right proper.2, depth, eval]
      simp only [Nat.add_le_add_iff_right, Nat.max_le]
      exact bind_of_conditions op.apply _ _
    | call function args =>
      rw [Proper, properArgs_iff] at proper
      have values := mapM_of_levels fun arg listed => ih arg (proper.2 arg listed)
      have count : (args.map (eval lookup)).length = function.arity := by
        rw [List.length_map, proper.1]
      rw [evalWithin, values, depth, eval, evalArgs_eq_map]
      simp only [Nat.add_le_add_iff_right]
      by_cases within : depthArgs args ≤ n
      · rw [if_pos within, if_pos within, Option.bind_eq_bind, Option.bind_some, if_pos count]
      · rw [if_neg within, if_neg within]
        rfl
    | error message =>
      rw [Proper] at proper
      exact proper.elim

/-- **The search for references** takes as many levels as the expression has. -/
theorem readsWithin_eq (n : Nat) (e : Expr) :
    readsWithin n e = if e.depth ≤ n then some e.reads else none := by
  induction n generalizing e with
  | zero => rw [readsWithin, if_neg e.not_depth_le_zero]
  | succ n ih =>
    cases e with
    | number x => simp [readsWithin, depth, reads]
    | text s => simp [readsWithin, depth, reads]
    | reference a => simp [readsWithin, depth, reads]
    | error message => simp [readsWithin, depth, reads]
    | unary op operand =>
      rw [readsWithin, ih operand, depth, reads]
      simp only [Nat.add_le_add_iff_right]
    | binary op left right =>
      rw [readsWithin, ih left, ih right, depth, reads]
      simp only [Nat.add_le_add_iff_right, Nat.max_le]
      exact bind_of_conditions (· ++ ·) _ _
    | call function args =>
      have parts := mapM_of_levels fun arg (_ : arg ∈ args) => ih arg
      rw [readsWithin, parts, depth, reads, readsArgs_eq_flatten]
      simp only [Nat.add_le_add_iff_right]
      by_cases within : depthArgs args ≤ n
      · rw [if_pos within, if_pos within]
        rfl
      · rw [if_neg within, if_neg within]
        rfl

/-! ## Parsed expressions -/

/-- **What is accepted** is proper and not too deep. -/
theorem bounded_of_ofTokens {ts : List Token} (h : ofTokens ts = .ok e) :
    e.Proper ∧ e.depth ≤ depthLimit := by
  unfold ofTokens at h
  split at h
  · cases h
  · rcases ofItems_eq_ok_iff.1 h with ⟨-, rfl⟩ | ⟨proper, shallow, -⟩
    · exact ⟨trivial, by decide⟩
    · exact ⟨proper, shallow⟩

/-- The expression of a text is the error that it has, or it is proper and not too deep. -/
theorem ofText_cases (s : String) :
    (∃ err, ofText? s = .error err ∧ ofText s = .error err.message) ∨
      (ofText? s = .ok (ofText s) ∧ (ofText s).Proper ∧ (ofText s).depth ≤ depthLimit) := by
  rw [ofText]
  cases parsed : ofText? s with
  | error err => exact Or.inl ⟨err, rfl, rfl⟩
  | ok e =>
    obtain ⟨ts, -, accepted⟩ := exists_tokens_of_ofText? parsed
    exact Or.inr ⟨rfl, bounded_of_ofTokens accepted⟩

/-- The depths beside the finished subtrees are theirs, also if the last one is too deep. -/
theorem depth_of_build (h : items.foldlM build [] = .ok nodes) :
    (∀ node ∈ nodes, node.depth = node.expr.depth) ∧ ∀ item node rest,
      combine nodes item = .ok (node, rest) → node.depth = node.expr.depth := by
  obtain ⟨es, rfl, sound, -⟩ := accounts_nil.foldlM h
  constructor
  · intro node finished
    obtain ⟨e, -, rfl⟩ := List.mem_map.1 finished
    rfl
  · intro item node rest combined
    obtain ⟨e, left, rfl, -, -⟩ := combine_eq_ok (fun e he => (sound e he).1) combined
    rfl

/-- **Parsed expressions are proper and bounded.** The expression of a text is the error that the
text has and nothing else, or a proper expression of at most 512 levels; its evaluation and the
search for its references take at most so many levels, and no function gets a wrong number of
arguments. While an expression is built, the depths beside the finished subtrees are the depths of
these, whatever the items are. -/
theorem ofText_bounded :
    (∀ s : String,
      ((∃ err, ofText? s = .error err ∧ ofText s = .error err.message) ∨
        (ofText? s = .ok (ofText s) ∧ (ofText s).Proper ∧ (ofText s).depth ≤ 512)) ∧
      (∀ lookup, evalWithin lookup 512 (ofText s) = some ((ofText s).eval lookup)) ∧
      readsWithin 512 (ofText s) = some (ofText s).reads) ∧
    ∀ (items : List Item) (nodes : List Built), items.foldlM build [] = .ok nodes →
      (∀ node ∈ nodes, node.depth = node.expr.depth) ∧ ∀ item node rest,
        combine nodes item = .ok (node, rest) → node.depth = node.expr.depth := by
  refine ⟨fun s => ⟨ofText_cases s, ?_⟩, fun items nodes => depth_of_build⟩
  rcases ofText_cases s with ⟨err, -, error⟩ | ⟨-, proper, shallow⟩
  · rw [error]
    exact ⟨fun lookup => by rw [evalWithin, eval], by rw [readsWithin, reads]⟩
  · exact ⟨fun lookup => (evalWithin_eq lookup 512 _ proper).trans (if_pos shallow),
      (readsWithin_eq 512 _).trans (if_pos shallow)⟩

/-- A call without arguments, and an operand that a call takes from outside of its brackets. -/
theorem ofText_bounded_misplaced :
    let items : List Item := [.call "pi", .reference ⟨0, 0⟩, .call "sin"]
    let nodes : List Built := [⟨.call .sin [.reference ⟨0, 0⟩], 2⟩, ⟨.call .pi [], 1⟩]
    items.foldlM build [] = .ok nodes ∧ (∀ node ∈ nodes, node.depth = node.expr.depth) ∧
      ∀ item node rest, combine nodes item = .ok (node, rest) → node.depth = node.expr.depth := by
  intro items nodes
  have built : items.foldlM build [] = .ok nodes := rfl
  exact ⟨built, ofText_bounded.2 items nodes built⟩

end Expr

end Spreadsheet
