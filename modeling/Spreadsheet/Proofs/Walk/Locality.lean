import Spreadsheet.Proofs.Formula.References
import Spreadsheet.Proofs.Walk.Nesting

/-!
# A walk stays local

A walk reads the cells that it reaches and no others: where two stores agree on a set of cells that
is closed under references (`Store.Agree`), a walk that starts inside the set takes the same steps
in both (`Agree.run_congr`), also if it ends at a cycle. So a query answers the same
(`Agree.value_congr`).
-/

namespace Spreadsheet

/-- The stores have the same cells on a set that is closed under references, with the same values,
and the same references of these cells lie inside the bounds. -/
structure Store.Agree (s t : Store) (K : Address → Prop) : Prop where
  cell : ∀ a, K a → t.cell a = s.cell a
  contains : ∀ a r, K a → s.Reads a r → t.bounds.contains r = s.bounds.contains r
  closed : ∀ a r, K a → s.Follows a r → K r

namespace Walk

variable {s : Store} {w : Walk}

/-- After a step, the stack holds cells that it held before or that one of those follows. -/
theorem mem_stack_step {w' : Walk} (h : w.step s = .walking w') {b : Address}
    (hb : b ∈ w'.stack) : b ∈ w.stack ∨ ∃ a ∈ w.stack, s.Follows a b := by
  obtain ⟨a, rest, top, cases⟩ := step_walking_cases h
  rcases cases with ⟨-, rfl⟩ | ⟨-, -, rfl⟩ | ⟨-, -, entered⟩
  · exact Or.inl (top ▸ List.mem_cons_of_mem a hb)
  · exact Or.inl (top ▸ List.mem_cons_of_mem a hb)
  · rw [eq_of_enter entered] at hb
    rcases List.mem_append.1 hb with hb | hb
    · rw [List.mem_reverse, List.mem_filter, Std.ExtTreeSet.mem_toList] at hb
      exact Or.inr ⟨a, top ▸ List.mem_cons_self, hb⟩
    · exact Or.inl hb

end Walk

namespace Store.Agree

variable {s t : Store} {K : Address → Prop} {w : Walk} {a r : Address}

theorem known?_congr (agree : s.Agree t K) (ha : K a) : w.known? t a = w.known? s a := by
  rw [Walk.known?, agree.cell a ha, Walk.known?]

/-- The references of a cell in the set have the same values. -/
theorem lookup_congr (agree : s.Agree t K) (ha : K a) (reads : s.Reads a r) :
    w.lookup t r = w.lookup s r := by
  rw [Walk.lookup, Walk.lookup, agree.contains a r ha reads]
  split
  · rename_i inside
    rw [agree.known?_congr (agree.closed a r ha ⟨reads, inside⟩)]
  · rfl

theorem compute_congr (agree : s.Agree t K) (linked : s.Linked) (ha : K a) :
    w.compute t a = w.compute s a := by
  have value : (s.cell a).expr.eval (w.lookup t) = (s.cell a).expr.eval (w.lookup s) := by
    refine Expr.eval_congr fun r hr => agree.lookup_congr ha ?_
    rw [(linked.parsed a).expr] at hr
    rwa [Reads, linked.references]
  rw [Walk.compute, agree.cell a ha, value, Walk.compute]

theorem enter_congr (agree : s.Agree t K) (ha : K a) : w.enter t a = w.enter s a := by
  have waiting : (s.cell a).references.toList.filter t.bounds.contains =
      (s.cell a).references.toList.filter s.bounds.contains :=
    List.filter_congr fun r hr => agree.contains a r ha (Std.ExtTreeSet.mem_toList.1 hr)
  simp only [Walk.enter, agree.cell a ha, waiting]

/-- **One step** of a walk inside the set is the same in both stores. -/
theorem step_congr (agree : s.Agree t K) (linked : s.Linked) (stack : ∀ a ∈ w.stack, K a) :
    w.step t = w.step s := by
  unfold Walk.step
  split
  · rfl
  · rename_i a rest top
    have ha : K a := stack a (top ▸ List.mem_cons_self)
    rw [agree.known?_congr ha, agree.compute_congr linked ha, agree.enter_congr ha]

/-- **A whole run** that starts inside the set is the same in both stores. -/
theorem run_congr (agree : s.Agree t K) (linked : s.Linked) (stack : ∀ a ∈ w.stack, K a) :
    w.run t = w.run s := by
  fun_induction Walk.run s w with
  | case1 w r found =>
    exact Walk.run_of_ended ((agree.step_congr linked stack).trans found)
  | case2 w w' found ih =>
    rw [Walk.run_of_walking ((agree.step_congr linked stack).trans found)]
    refine ih fun b hb => ?_
    rcases Walk.mem_stack_step found hb with hb | ⟨a, ha, follows⟩
    · exact stack b hb
    · exact agree.closed a b (stack a ha) follows

/-- **A query** for an address in the set answers the same in both stores. -/
theorem value_congr (agree : s.Agree t K) (linked : s.Linked) (ha : K a)
    (contains : t.bounds.contains a = s.bounds.contains a) : (t.value a).1 = (s.value a).1 := by
  have run : (Walk.start a).run t = (Walk.start a).run s :=
    agree.run_congr linked fun b hb => List.mem_singleton.1 hb ▸ ha
  unfold value
  rw [contains, agree.cell a ha, run]
  split
  · rfl
  · rename_i inside
    cases (s.cell a).cached with
    | some v => rfl
    | none =>
      cases (Walk.start a).run s with
      | finished w =>
        change w.lookup t a = w.lookup s a
        rw [Walk.lookup, Walk.lookup, contains, agree.known?_congr ha]
      | cycle target w => rfl

end Store.Agree

end Spreadsheet
