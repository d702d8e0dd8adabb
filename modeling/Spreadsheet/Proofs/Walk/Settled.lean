import Spreadsheet.Proofs.Walk.Locality
import Spreadsheet.Proofs.Walk.Query

/-!
# The values that a store settles

What a store remembers settles the values of other cells: a cell without a value has that of its
expression once each of its references has one (`Store.Settled`). A cell gets at most one value in
this way, and none if it leads to a cycle of cells without values. So this is the value that a query
for the cell answers (`Settled.value_eq`), and whatever else a walk computes on its way is the answer
of a query of its own (`Detects.getElem?_computed`), also if the walk is abandoned at a cycle.
-/

namespace Spreadsheet.Store

open Relation Walk

variable {s : Store} {a b target : Address} {v v' : Value} {w : Walk}

/-- The value of a cell on account of what the store remembers: the one that is remembered, or that
of its expression if each of its references has its value in turn. -/
inductive Settled (s : Store) : Address → Value → Prop
  | cached {a : Address} {v : Value} (inside : s.bounds.contains a = true)
    (h : (s.cell a).cached = some v) : Settled s a v
  | computed {a : Address} {lookup : Address → Value} (inside : s.bounds.contains a = true)
    (uncached : (s.cell a).cached = none)
    (references : ∀ r, s.Follows a r → Settled s r (lookup r))
    (outside : ∀ r, s.Reads a r → s.bounds.contains r = false → lookup r = invalidAddress r) :
    Settled s a ((s.cell a).expr.eval lookup)

/-- What a walk computes is settled. -/
theorem valueLaw_settled : s.ValueLaw s.Settled where
  cached _ _ inside h := .cached inside h
  computed _ _ inside uncached references outside := .computed inside uncached references outside

namespace Settled

theorem inside (h : s.Settled a v) : s.bounds.contains a = true := by
  cases h with
  | cached inside _ => exact inside
  | computed inside _ _ _ => exact inside

/-- Cells that lead to a cycle of cells without values are not settled. -/
theorem not_meetsCycle (h : s.Settled a v) : ¬MeetsCycle s a := by
  induction h with
  | cached inside h => exact lawMeets.cached _ _ inside h
  | computed inside uncached _ outside ih => exact lawMeets.computed _ _ inside uncached ih outside

/-- **A cell has one settled value at most.** -/
theorem unique (linked : s.Linked) (h : s.Settled a v) (h' : s.Settled a v') : v = v' := by
  induction h generalizing v' with
  | cached _ h =>
    cases h' with
    | cached _ h' => exact Option.some.inj (h.symm.trans h')
    | computed _ uncached _ _ => cases h.symm.trans uncached
  | @computed a lookup _ uncached _ outside ih =>
    cases h' with
    | cached _ h' => cases uncached.symm.trans h'
    | @computed _ lookup' _ _ references' outside' =>
      refine Expr.eval_congr fun r hr => ?_
      rw [(linked.parsed a).expr, ← linked.references] at hr
      cases contained : s.bounds.contains r with
      | true => exact ih r ⟨hr, contained⟩ (references' r ⟨hr, contained⟩)
      | false => rw [outside r hr contained, outside' r hr contained]

/-- **A query answers the settled value.** -/
theorem value_eq (linked : s.Linked) (h : s.Settled a v) : (s.value a).1 = v := by
  rcases value_cases valueLaw_settled h.inside with settled | ⟨-, meets⟩
  · exact settled.unique linked h
  · exact absurd meets h.not_meetsCycle

end Settled

/-! ## Walks that are abandoned at a cycle -/

namespace Detects

/-- What a walk has done when it meets a cycle. -/
theorem closed_settled (h : s.Detects a target w) :
    ∃ c fs, Closed s s.Settled a target w c fs := by
  have ended := run_ends (valueLaw_settled (s := s)) h.inside
  rw [h.ends] at ended
  cases ended with
  | cycle closed => exact ⟨_, _, closed⟩

/-- What was computed on the way has the value that a query for it answers. -/
theorem getElem?_computed (h : s.Detects a target w) (linked : s.Linked) (hb : b ∈ w.computed) :
    w.computed[b]? = some (s.value b).1 := by
  obtain ⟨c, fs, closed⟩ := h.closed_settled
  obtain ⟨v, found⟩ := Option.isSome_iff_exists.1 (Std.ExtTreeMap.mem_iff_isSome_getElem?.1 hb)
  rw [found, (closed.progress.values b v found).value_eq linked]

/-- The asked cell and the cells of the cycle are open, so they are not computed. -/
theorem not_mem_computed (h : s.Detects a target w) (hb : b = a ∨ b ∈ cycleCells target w) :
    b ∉ w.computed := by
  obtain ⟨c, fs, closed⟩ := h.closed
  rcases hb with rfl | on_cycle
  · exact (isOpen_iff.1 ((closed.open_iff b).2 closed.nested.root_mem)).2
  · exact (isOpen_iff.1 (List.mem_filter.1 on_cycle).2).2

/-- **What an abandoned walk leaves behind**: the cycle error for the asked cell and for those of
the cycle, the values of the cells that it had computed, and nothing else. -/
theorem cached_value_cases (h : s.Detects a target w) (linked : s.Linked) (b : Address) :
    ((s.value a).2.cell b).cached =
      if b = a ∨ b ∈ cycleCells target w then some cycleError
      else if b ∈ w.computed then some (s.value b).1
      else (s.cell b).cached := by
  rw [h.cached_value]
  split
  · rfl
  · split
    · rename_i computed
      rw [known?, h.getElem?_computed linked computed]
    · rename_i not_computed
      rw [known?, Std.ExtTreeMap.getElem?_eq_none not_computed]

end Detects

end Spreadsheet.Store
