import Spreadsheet.Proofs.Sheet.Concurring

/-!
# What an abandoned query leaves behind

A query that finds a cycle is abandoned, but what it has computed until then is kept, like what any
other query computes: besides the cycle error for the asked cell and the cells of the cycle, the
sheet remembers the values of the cells that were computed on the way
(`Sheet.abandoned_computed_beside`). These are values that the sheet had settled before, so nobody
can tell the sheet from one with the cycle errors alone (`Sheet.Reachable.abandoned_exact`). A cell
that was entered and not computed stays as it was.
-/

namespace Spreadsheet.Sheet

open Relation Store Walk

variable {s : Sheet} {a target : Address} {w : Walk}

/-- The sheet with the cycle error for the asked cell and the cells of a cycle, and no other value
added. -/
def marked (s : Sheet) (a target : Address) (w : Walk) : Sheet :=
  ⟨s.store.cacheCycle (.ofList (a :: cycleCells target w))⟩

/-- The errors of a cycle are not said of cells that reach none. -/
theorem Coherent.cacheCycle {cells : AddressSet} (h : s.Coherent)
    (meets : ∀ b ∈ cells, MeetsCycle s.store b) : Coherent ⟨s.store.cacheCycle cells⟩ := by
  have keeps := ((Marks.refl s.store).cacheCycle meets).keeps
  intro b v cached acyclic
  have formula : (⟨s.store.cacheCycle cells⟩ : Sheet).formula = s.formula :=
    funext fun b => Cell.formula_congr (keeps.cell b)
  have bounds : (⟨s.store.cacheCycle cells⟩ : Sheet).bounds = s.bounds := keeps.bounds
  have acyclic' : ¬ReachesCycle s.store b := mt keeps.reachesCycle.2 acyclic
  have unmarked : b ∉ cells := fun hb => acyclic' (meets b hb).reachesCycle
  rw [bounds, formula]
  rw [cached_cacheCycle, if_neg unmarked] at cached
  exact h b v cached acyclic'

/-- The sheet after an abandoned query concurs with the one that has the cycle errors alone. -/
theorem Reachable.marked_concurs (h : s.Reachable) (detects : s.store.Detects a target w) :
    (s.marked a target w).Concurs (s.value a).2 := by
  obtain ⟨c, fs, closed⟩ := detects.closed_settled
  have meets : ∀ b ∈ (.ofList (a :: cycleCells target w) : AddressSet), MeetsCycle s.store b :=
    fun _ => meetsCycle_of_marked closed
  have marks := (Marks.refl s.store).cacheCycle meets
  have marks' := (marks_cacheAll closed.progress).cacheCycle meets
  have store : (s.value a).2.store = _ :=
    congrArg Prod.snd (value_of_cycle detects.inside detects.uncached detects.ends)
  exact {
    left := h.sound.keeps marks.keeps
    right := h.sound.keeps (value_keeps s.store a)
    left_coherent := h.coherent.cacheCycle meets
    right_coherent := h.coherent.value h.sound a
    store := store ▸ marks.concurs marks' (.refl h.sound.linked) }

/-- **What an abandoned query leaves behind.** If a query ends at a cycle, the asked cell and the
cells of the cycle, which had no values, get the cycle error. Of the other cells exactly those have
got a value that the query had computed: they are read on the way from the asked cell, had no value,
lead to no cycle of such cells, and their value is the one that a query of their own would have
answered before. All others remember what they did, also those that the query entered. And whatever
is done next, the sheet answers as if it had got nothing but the cycle errors. -/
theorem Reachable.abandoned_exact (h : s.Reachable) (detects : s.store.Detects a target w) :
    (∀ b, ((s.value a).2.store.cell b).cached =
      if b = a ∨ b ∈ cycleCells target w then some cycleError
      else if b ∈ w.computed then some (s.value b).1
      else (s.store.cell b).cached) ∧
    (∀ b, b = a ∨ b ∈ cycleCells target w → (s.store.cell b).cached = none) ∧
    (∀ b ∈ w.computed, ¬(b = a ∨ b ∈ cycleCells target w) ∧ (s.store.cell b).cached = none ∧
      b ∈ w.entered ∧ ReflTransGen s.store.Reads a b ∧ ¬MeetsCycle s.store b) ∧
    ∀ calls : List Call,
      (calls.foldl Sheet.after (s.marked a target w)).AnswersAlike
        (calls.foldl Sheet.after (s.value a).2) := by
  obtain ⟨c, fs, closed⟩ := detects.closed_settled
  refine ⟨detects.cached_value_cases h.sound.linked, fun b hb => ?_, fun b hb => ?_,
    fun calls => ?_⟩
  · exact (meetsCycle_of_marked closed (mem_marked.2 hb)).1
  · have entered := closed.progress.computed b hb
    obtain ⟨inside, uncached, reached⟩ := closed.progress.entered b entered
    obtain ⟨v, found⟩ := Option.isSome_iff_exists.1 (Std.ExtTreeMap.mem_iff_isSome_getElem?.1 hb)
    exact ⟨fun mark => detects.not_mem_computed mark hb, uncached, entered,
      ReflTransGen.mono (fun _ _ => And.left) _ _ reached,
      (closed.progress.values b v found).not_meetsCycle⟩
  · exact ((h.marked_concurs detects).foldl_after calls).answersAlike

/-- A text beside a cell that reads itself is computed before the cycle is met. -/
theorem abandoned_exact_beside :
    let s := (((empty 2 3).after (.set ⟨0, 0⟩ "=B1+C1")).after (.set ⟨0, 1⟩ "=B1")).after
      (.set ⟨0, 2⟩ "y")
    ∃ target w, s.store.Detects ⟨0, 0⟩ target w ∧
      ((s.value ⟨0, 0⟩).2.store.cell ⟨0, 1⟩).cached = some cycleError ∧
      ((s.value ⟨0, 0⟩).2.store.cell ⟨0, 2⟩).cached = some (s.value ⟨0, 2⟩).1 ∧
      (s.marked ⟨0, 0⟩ target w).AnswersAlike (s.value ⟨0, 0⟩).2 := by
  intro s
  have reachable : s.Reachable := (((Reachable.empty 2 3).after _).after _).after _
  have ends : match (start ⟨0, 0⟩).run s.store with
      | .cycle target w => (cycleCells target w, w.computed.contains ⟨0, 2⟩) = ([⟨0, 1⟩], true)
      | .finished _ => False := by
    unfold s
    cbv
  split at ends
  · rename_i target w found
    obtain ⟨cells, computed⟩ := Prod.mk.inj ends
    have detects : s.store.Detects ⟨0, 0⟩ target w := {
      inside := by
        unfold s
        cbv
      uncached := by
        unfold s
        cbv
      ends := found }
    obtain ⟨cached, -, -, alike⟩ := reachable.abandoned_exact detects
    refine ⟨target, w, detects, ?_, ?_, alike []⟩
    · rw [cached, cells, if_pos (Or.inr List.mem_cons_self)]
    · rw [cached, cells, if_neg (by decide), if_pos (Std.ExtTreeMap.contains_iff_mem.1 computed)]
  · exact ends.elim

/-- A cell that was neither asked for nor lies on the cycle has a value after the query, and had
none before it. -/
theorem abandoned_computed_beside :
    let s := (((empty 2 3).after (.set ⟨0, 0⟩ "=B1+C1")).after (.set ⟨0, 1⟩ "=A1")).after
      (.set ⟨0, 2⟩ "x")
    s.Reachable ∧ ∃ target w, s.store.Detects ⟨0, 0⟩ target w ∧
      ¬(⟨0, 2⟩ = (⟨0, 0⟩ : Address) ∨ ⟨0, 2⟩ ∈ cycleCells target w) ∧
      (s.store.cell ⟨0, 2⟩).cached = none ∧
      ((s.value ⟨0, 0⟩).2.store.cell ⟨0, 2⟩).cached = some (.text "x") := by
  intro s
  have ends : match (start ⟨0, 0⟩).run s.store with
      | .cycle target w => cycleCells target w = [⟨0, 1⟩, ⟨0, 0⟩]
      | .finished _ => False := by
    unfold s
    cbv
  have before : (s.store.cell ⟨0, 2⟩).cached = none := by
    unfold s
    cbv
  have after : ((s.value ⟨0, 0⟩).2.store.cell ⟨0, 2⟩).cached = some (.text "x") := by
    unfold s
    cbv
  refine ⟨(((Reachable.empty 2 3).after _).after _).after _, ?_⟩
  split at ends
  · rename_i target w found
    refine ⟨target, w, ⟨?_, ?_, found⟩, by rw [ends]; decide, before, after⟩
    · unfold s
      cbv
    · unfold s
      cbv
  · exact ends.elim

end Spreadsheet.Sheet
