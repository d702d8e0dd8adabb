import Spreadsheet.Proofs.Sheet.Spared

/-!
# What a sheet remembers

A sheet is coherent if the values that it remembers are those that recalculation gives, for all
cells that reach no cycle (`Sheet.Coherent`). Queries and edits keep a sheet coherent, so a query
answers what recalculation gives, whatever came before it (`Sheet.Reachable.value_iff`). Cells that
reach a cycle have no recalculated value (`Sheet.Sound.not_reachesCycle`): what is remembered of
them is left open here.
-/

namespace Spreadsheet.Sheet

open Relation Store Walk

variable {s s' : Sheet} {a : Address} {v : Value} {stale : AddressSet}

/-- What the sheet remembers of a cell that reaches no cycle is the value of its text. -/
def Coherent (s : Sheet) : Prop :=
  ∀ a v, (s.store.cell a).cached = some v → ¬ReachesCycle s.store a →
    Settles s.bounds s.formula a v

/-- A cell that follows another one reaches what that one reaches. -/
theorem not_reachesCycle_of_follows {t : Store} {b : Address} (acyclic : ¬ReachesCycle t a)
    (follows : t.Follows a b) : ¬ReachesCycle t b := fun ⟨c, path, cycle⟩ =>
  acyclic ⟨c, ReflTransGen.head follows path, cycle⟩

/-- A cell without references reaches no cycle. -/
theorem not_reachesCycle_of_blank (h : s.Sound) (blank : s.formula a = "") :
    ¬ReachesCycle s.store a := by
  intro cycle
  obtain ⟨b, follows, -⟩ := cycle.exists_follows
  exact h.linked.formula_ne_of_reads follows.1 blank

/-- A recalculated value shows that no cycle is reached. -/
theorem Sound.not_reachesCycle (h : s.Sound) (value : Recalculates s.bounds s.formula a v) :
    ¬ReachesCycle s.store a := by
  induction value with
  | @outside a outside =>
    refine not_reachesCycle_of_blank h ?_
    by_contra text
    have inside := h.inside a text
    rw [contains, outside] at inside
    cases inside
  | @inside a lookup _ _ ih =>
    intro cycle
    obtain ⟨b, follows, cycle⟩ := cycle.exists_follows
    exact ih b (h.reads_iff.1 follows.1) cycle

namespace Coherent

/-- In a coherent sheet, computing a cell from recalculated values gives the recalculated value. -/
theorem law (h : s.Coherent) (hs : s.Sound) : s.store.ValueLaw fun a v =>
    ¬ReachesCycle s.store a → Settles s.bounds s.formula a v where
  cached a v _ cached := h a v cached
  computed a lookup _ _ inside outside acyclic := by
    refine ⟨lookup, fun r hr => ?_, ?_⟩
    · have reads : s.store.Reads a r := hs.reads_iff.2 hr
      cases contained : s.store.bounds.contains r with
      | true =>
        have follows : s.store.Follows a r := ⟨reads, contained⟩
        exact (inside r follows (not_reachesCycle_of_follows acyclic follows)).recalculates contained
      | false =>
        rw [outside r reads contained]
        exact .outside contained
    · rw [(hs.linked.parsed a).expr]
      rfl

theorem empty (rows columns : Nat) : (empty rows columns).Coherent := by
  intro a v cached _
  obtain rfl : Value.empty = v := Option.some.inj cached
  exact settles_blank rfl

/-- A query keeps what recalculation gives. -/
theorem value (h : s.Coherent) (hs : s.Sound) (a : Address) : (s.value a).2.Coherent := by
  intro b v cached acyclic
  rw [bounds_value, formula_value]
  replace acyclic : ¬ReachesCycle s.store b := mt (value_keeps s.store a).reachesCycle.2 acyclic
  rcases cached_value (h.law hs) cached with before | settles | ⟨-, cycle⟩
  · exact h b v before acyclic
  · exact settles acyclic
  · exact absurd cycle acyclic

/-- An edit forgets what it puts out of date. -/
theorem edit (h : s.Coherent) (hs : s.Sound) (edit : s.Edit stale s') : s'.Coherent := by
  have hs' := hs.edit edit
  obtain ⟨kept, spares, -⟩ := edit.spares hs
  intro a v cached acyclic
  have of_blank : s'.store.cell a = Cell.blank → Settles s'.bounds s'.formula a v := by
    intro blank
    obtain rfl : Value.empty = v := by
      rw [blank] at cached
      exact Option.some.inj cached
    exact settles_blank (congrArg Cell.formula blank)
  by_cases stored : a ∈ s'.store.entries
  · by_cases ha : kept a
    · rw [spares.cell a stored ha] at cached
      exact spares.settles hs ha (h a v cached (mt (spares.reachesCycle_iff hs hs' ha).2 acyclic))
    · rcases spares.fresh a stored ha with none | blank
      · rw [none] at cached
        cases cached
      · exact of_blank blank
  · exact of_blank (cell_of_not_mem stored)

end Coherent

theorem Reachable.coherent (h : s.Reachable) : s.Coherent :=
  h.invariant Coherent.empty (fun hs coherent => coherent.edit hs) fun hs coherent =>
    coherent.value hs

/-- A query answers what recalculation gives, unless the address reaches a cycle. -/
theorem Coherent.recalculates (h : s.Coherent) (hs : s.Sound) (acyclic : ¬ReachesCycle s.store a) :
    Recalculates s.bounds s.formula a (s.value a).1 := by
  cases inside : s.store.bounds.contains a with
  | true =>
    rcases value_law (h.law hs) inside with settles | ⟨-, cycle⟩
    · exact (settles acyclic).recalculates inside
    · exact absurd cycle acyclic
  | false =>
    have answer : (s.value a).1 = invalidAddress a := congrArg Prod.fst (value_of_outside inside)
    rw [answer]
    exact .outside inside

/-- **No query answers a stale value.** After any calls, a query for an address that reaches no
cycle answers the one value that recalculation gives. -/
theorem Reachable.value_iff (h : s.Reachable) (a : Address) (acyclic : ¬ReachesCycle s.store a)
    (v : Value) : (s.value a).1 = v ↔ Recalculates s.bounds s.formula a v := by
  have recalculated := h.coherent.recalculates h.sound acyclic
  constructor
  · rintro rfl
    exact recalculated
  · exact recalculated.unique

/-- A value that was remembered is not answered any more when a reference has changed. -/
theorem value_after_change :
    let s := (((empty 2 2).after (.set ⟨0, 0⟩ "=B1")).after (.value ⟨0, 0⟩)).after (.set ⟨0, 1⟩ "x")
    (s.value ⟨0, 0⟩).1 = .text "x" := by
  intro s
  have reachable : s.Reachable := (((Reachable.empty 2 2).after _).after _).after _
  have inside : (((empty 2 2).after (.set ⟨0, 0⟩ "=B1")).after (.value ⟨0, 0⟩)).contains ⟨0, 1⟩ =
      true := by
    rw [after_value, contains, bounds_value]
    cbv
  have texts : ∀ a, s.formula a =
      if ⟨0, 1⟩ = a then "x" else if ⟨0, 0⟩ = a then "=B1" else "" := by
    intro a
    rw [formula_after_set inside, after_value, formula_value, formula_after_set (by cbv)]
    rfl
  have bounds : s.bounds = (empty 2 2).bounds := by
    rw [bounds_after_set, after_value, bounds_value, bounds_after_set]
  have leaf : Recalculates s.bounds s.formula ⟨0, 1⟩ (.text "x") := by
    refine Settles.recalculates ⟨fun _ => .text "x", fun r hr => ?_, ?_⟩ (by rw [bounds]; rfl)
    · rw [texts, show Expr.ofText _ = .text "x" by cbv] at hr
      exact absurd hr Std.ExtTreeSet.not_mem_empty
    · rw [texts]
      cbv
  have root : Recalculates s.bounds s.formula ⟨0, 0⟩ (.text "x") := by
    refine Settles.recalculates ⟨fun _ => .text "x", fun r hr => ?_, ?_⟩ (by rw [bounds]; rfl)
    · rw [texts, show Expr.ofText _ = .reference ⟨0, 1⟩ by cbv, Expr.mem_references] at hr
      obtain rfl : r = ⟨0, 1⟩ := List.mem_singleton.1 hr
      exact leaf
    · rw [texts]
      cbv
  exact (reachable.value_iff ⟨0, 0⟩ (reachable.sound.not_reachesCycle root) _).2 root

end Spreadsheet.Sheet
