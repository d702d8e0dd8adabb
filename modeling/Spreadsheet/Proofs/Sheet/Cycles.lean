import Spreadsheet.Proofs.Formula.Strictness
import Spreadsheet.Proofs.Sheet.Memoization

/-!
# Cells that reach a cycle

A query that meets a cycle keeps the cycle error for the asked cell and for the cells of the cycle
only, so another cell above the cycle is computed later from what is kept, and its message depends
on the order of the queries. It is an error all the same: a sheet keeps nothing but errors for the
cells that reach a cycle (`Sheet.Reachable.flagged`), since a formula passes on the errors that it
reads. So the bounds and the texts of a sheet determine which cells are errors, and the values of
all others (`Sheet.Reachable.isError_determined`).
-/

namespace Spreadsheet.Sheet

open Store Walk

variable {s s' : Sheet} {a : Address} {stale : AddressSet}

/-- What the sheet remembers of a cell that reaches a cycle is an error. -/
def Flagged (s : Sheet) : Prop :=
  ∀ a v, (s.store.cell a).cached = some v → ReachesCycle s.store a → v.isError = true

namespace Flagged

/-- A cell that reaches a cycle reads one that does, and passes on its error. -/
theorem law (h : s.Flagged) (hs : s.Sound) : s.store.ValueLaw fun a v =>
    ReachesCycle s.store a → v.isError = true where
  cached a v _ cached := h a v cached
  computed a lookup _ _ inside _ cycle := by
    obtain ⟨b, follows, cycle⟩ := cycle.exists_follows
    have error : (lookup b).isError = true := inside b follows cycle
    have reads : b ∈ (Expr.ofText (s.formula a)).references := hs.reads_iff.1 follows.1
    rw [(hs.linked.parsed a).expr]
    exact Expr.isError_eval reads error

theorem empty (rows columns : Nat) : (empty rows columns).Flagged := by
  intro a v _ cycle
  exact absurd cycle (not_reachesCycle_of_blank (sound_empty rows columns) rfl)

theorem value (h : s.Flagged) (hs : s.Sound) (a : Address) : (s.value a).2.Flagged := by
  intro b v cached cycle
  replace cycle : ReachesCycle s.store b := (value_keeps s.store a).reachesCycle.1 cycle
  rcases cached_value (h.law hs) cached with before | error | ⟨rfl, -⟩
  · exact h b v before cycle
  · exact error cycle
  · rfl

/-- An edit forgets all values but those of cells that reach what they reached before. -/
theorem edit (h : s.Flagged) (hs : s.Sound) (edit : s.Edit stale s') : s'.Flagged := by
  have hs' := hs.edit edit
  obtain ⟨kept, spares, -⟩ := edit.spares hs
  intro a v cached cycle
  have not_blank : s'.store.cell a ≠ Cell.blank := fun blank =>
    not_reachesCycle_of_blank hs' (congrArg Cell.formula blank) cycle
  have stored : a ∈ s'.store.entries := by
    by_contra missing
    exact not_blank (cell_of_not_mem missing)
  by_cases ha : kept a
  · rw [spares.cell a stored ha] at cached
    exact h a v cached ((spares.reachesCycle_iff hs hs' ha).1 cycle)
  · rcases spares.fresh a stored ha with none | blank
    · rw [none] at cached
      cases cached
    · exact absurd blank not_blank

/-- A query for a cell that reaches a cycle answers an error. -/
theorem isError_value (h : s.Flagged) (hs : s.Sound) (cycle : ReachesCycle s.store a) :
    (s.value a).1.isError = true := by
  cases inside : s.store.bounds.contains a with
  | true =>
    rcases value_law (h.law hs) inside with error | ⟨answer, -⟩
    · exact error cycle
    · have error : (s.value a).1 = cycleError := answer
      rw [error]
      rfl
  | false =>
    have answer : (s.value a).1 = invalidAddress a := congrArg Prod.fst (value_of_outside inside)
    rw [answer]
    rfl

end Flagged

theorem Reachable.flagged (h : s.Reachable) : s.Flagged :=
  h.invariant Flagged.empty (fun hs flagged => flagged.edit hs) fun hs flagged => flagged.value hs

/-- Sheets with the same bounds and texts reach the same cycles. -/
theorem Sound.reachesCycle_congr (hs : s.Sound) (hs' : s'.Sound) (bounds : s'.bounds = s.bounds)
    (texts : ∀ a, s'.formula a = s.formula a) :
    ReachesCycle s'.store a ↔ ReachesCycle s.store a := by
  refine Walk.reachesCycle_congr fun b c => ?_
  have same : s'.store.bounds = s.store.bounds := bounds
  rw [Follows, Follows, hs'.reads_iff, hs.reads_iff, texts, same]

/-- **Whether a cell is an error does not depend on the history.** A cell that reaches a cycle is an
error after any calls, and two sheets with the same bounds and texts agree on which cells are errors
and on the values of all others. -/
theorem Reachable.isError_determined (h : s.Reachable) :
    (∀ a, s.contains a = true → ReachesCycle s.store a →
      ∃ message, (s.value a).1 = .error message) ∧
    ∀ s' : Sheet, s'.Reachable → s'.bounds = s.bounds → (∀ a, s'.formula a = s.formula a) →
      ∀ a, (s'.isError a).1 = (s.isError a).1 ∧
        ((s.isError a).1 = false → (s'.value a).1 = (s.value a).1) := by
  constructor
  · intro a _ cycle
    exact Value.isError_iff.1 (h.flagged.isError_value h.sound cycle)
  · intro s' h' bounds texts a
    have same_cycles := h.sound.reachesCycle_congr h'.sound bounds texts (a := a)
    change (s'.value a).1.isError = (s.value a).1.isError ∧ ((s.value a).1.isError = false → _)
    by_cases cycle : ReachesCycle s.store a
    · have error := h.flagged.isError_value h.sound cycle
      have error' := h'.flagged.isError_value h'.sound (same_cycles.2 cycle)
      rw [error, error']
      exact ⟨rfl, fun none => by cases none⟩
    · have value := h.coherent.recalculates h.sound cycle
      have value' := h'.coherent.recalculates h'.sound (mt same_cycles.1 cycle)
      rw [bounds, funext texts] at value'
      have same : (s'.value a).1 = (s.value a).1 := value'.unique value
      rw [same]
      exact ⟨rfl, fun _ => rfl⟩

/-- A cell above a cycle is an error, whether it or the cycle is asked for first. -/
theorem isError_in_either_order :
    let s := ((empty 2 2).after (.set ⟨0, 0⟩ "=A1")).after (.set ⟨1, 0⟩ "=-A1")
    let s' := s.after (.value ⟨0, 0⟩)
    (∃ message, (s.value ⟨1, 0⟩).1 = .error message) ∧
      (s'.isError ⟨1, 0⟩).1 = (s.isError ⟨1, 0⟩).1 := by
  intro s s'
  have reachable : s.Reachable := ((Reachable.empty 2 2).after _).after _
  have texts : ∀ a, s.formula a =
      if ⟨1, 0⟩ = a then "=-A1" else if ⟨0, 0⟩ = a then "=A1" else "" := by
    intro a
    rw [formula_after_set (by cbv), formula_after_set (by cbv)]
    rfl
  have inside : ∀ a, (empty 2 2).contains a = true → s.store.bounds.contains a = true := by
    intro a ha
    have same : s.bounds = (empty 2 2).bounds := by rw [bounds_after_set, bounds_after_set]
    rw [contains, ← same] at ha
    exact ha
  have loop : s.store.Follows ⟨0, 0⟩ ⟨0, 0⟩ := by
    refine ⟨reachable.sound.reads_iff.2 ?_, inside _ (by cbv)⟩
    rw [texts, show Expr.ofText _ = .reference ⟨0, 0⟩ by cbv, Expr.mem_references]
    exact List.mem_singleton_self _
  have above : s.store.Follows ⟨1, 0⟩ ⟨0, 0⟩ := by
    refine ⟨reachable.sound.reads_iff.2 ?_, inside _ (by cbv)⟩
    rw [texts, show Expr.ofText _ = .unary .negate (.reference ⟨0, 0⟩) by cbv, Expr.mem_references]
    exact List.mem_singleton_self _
  have cycle : ReachesCycle s.store ⟨1, 0⟩ := ⟨_, .single above, .single loop⟩
  obtain ⟨errors, same⟩ := reachable.isError_determined
  refine ⟨errors _ (inside _ (by cbv)) cycle, ?_⟩
  have bounds : s'.bounds = s.bounds := bounds_value s ⟨0, 0⟩
  have kept : ∀ a, s'.formula a = s.formula a := congrFun (formula_value s ⟨0, 0⟩)
  exact (same s' (reachable.after _) bounds kept ⟨1, 0⟩).1

end Spreadsheet.Sheet
