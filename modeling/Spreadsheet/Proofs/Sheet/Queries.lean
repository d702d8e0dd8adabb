import Spreadsheet.Proofs.Sheet.CycleMessages
import Spreadsheet.Proofs.Walk.Trail

/-!
# How a query goes through a sheet

A query for a cell without a value walks along the references of the sheet. Whatever the sheet holds
and remembers, the walk reads nothing before it is known (`Sheet.Reachable.reads_known`), and it
reports a cycle if and only if it stands on one: the open cells at the top of its stack
(`Sheet.detects_exact`). It ends after a number of steps that the references of the cells that it
enters bound (`Sheet.value_trail`).
-/

namespace Spreadsheet.Sheet

open Relation Store Walk

variable {s : Sheet} {a : Address}

/-- **Nothing is read before it is known.** Whenever a query computes a cell, every address inside
the bounds that the expression of the cell reads has a value, and when it ends without a cycle the
asked cell has one, which is the answer. So what is taken for an unknown reference makes no
difference. -/
theorem Reachable.reads_known (h : s.Reachable) (inside : s.contains a = true) :
    (∀ w w', ReflTransGen (Moves s.store) (start a) w → Moves s.store w w' →
      w'.computed = w.computed ∨ ∃ c, w.Computes s.store c ∧
        w'.computed = w.computed.insert c ((s.store.cell c).expr.eval (w.lookup s.store)) ∧
        (∀ r ∈ (s.store.cell c).expr.references, s.contains r = true → w.Knows s.store r) ∧
        ∀ fallback, (s.store.cell c).expr.eval (w.lookupOr fallback s.store) =
          (s.store.cell c).expr.eval (w.lookup s.store)) ∧
    ∀ w, (start a).run s.store = .finished w →
      w.Knows s.store a ∧ ∀ fallback, w.lookupOr fallback s.store a = (s.value a).1 := by
  constructor
  · intro w w' moves move
    refine move.computed_cases.imp id ?_
    rintro ⟨c, computes, computed⟩
    refine ⟨c, computes, computed, fun r hr contained => ?_,
      computes.eval_lookupOr inside moves h.sound.linked⟩
    exact computes.knows inside moves ⟨h.sound.reads_iff_expr.2 hr, contained⟩
  · intro w finished
    have known := knows_of_finished inside finished
    refine ⟨known, fun fallback => ?_⟩
    rw [lookupOr_eq_lookup fun _ => known]
    exact (congrArg Prod.fst (value_of_walk inside finished)).symm

/-- A cell that is read on two ways is known on both. -/
theorem reads_known_shared :
    let s := (((empty 2 2).after (.set ⟨0, 0⟩ "=B1+B2")).after (.set ⟨0, 1⟩ "=B2")).after
      (.set ⟨1, 1⟩ "x")
    ∃ w, (start ⟨0, 0⟩).run s.store = .finished w ∧ w.Knows s.store ⟨0, 0⟩ ∧
      ∀ fallback, w.lookupOr fallback s.store ⟨0, 0⟩ = (s.value ⟨0, 0⟩).1 := by
  intro s
  have reachable : s.Reachable := (((Reachable.empty 2 2).after _).after _).after _
  have ends : match (start ⟨0, 0⟩).run s.store with
      | .cycle _ _ => False
      | .finished _ => True := by
    unfold s
    cbv
  split at ends
  · exact ends.elim
  · rename_i w finished
    have inside : s.contains ⟨0, 0⟩ = true := by
      unfold s
      cbv
    exact ⟨w, finished, (reachable.reads_known inside).2 w finished⟩

/-- **Only real cycles are reported.** If a query finds a cycle, the open cells in the stack at or
above the last place of its target form a simple cycle of references inside the bounds, from the
target to the top of the stack. The asked cell reaches the target. Exactly these cells and the asked
one, which have no values, get the cycle error. From a cell that reaches no cycle none is found. -/
theorem detects_exact (s : Sheet) :
    (∀ a target w, s.store.Detects a target w →
      (∃ cells top, w.stack.head? = some top ∧ s.store.Ring cells target top ∧
        ∀ b, b ∈ cells ↔ b ∈ downTo target w.stack ∧ w.isOpen b = true) ∧
      ReflTransGen s.store.Reads a target ∧
      (∀ b, b = a ∨ b ∈ cycleCells target w →
        (s.store.cell b).cached = none ∧ w.known? s.store b = none) ∧
      (s.value a).1 = cycleError ∧
      ∀ b, ((s.value a).2.store.cell b).cached =
        if b = a ∨ b ∈ cycleCells target w then some cycleError else w.known? s.store b) ∧
    ∀ a, s.contains a = true → ¬ReachesCycle s.store a → ∀ target w, ¬s.store.Detects a target w := by
  refine ⟨fun a target w detects => ?_, fun a _ acyclic target w detects =>
    acyclic detects.reachesCycle⟩
  obtain ⟨c, fs, closed⟩ := detects.closed
  have no_value : ∀ b, b = c ∨ b ∈ path fs →
      (s.store.cell b).cached = none ∧ w.known? s.store b = none := fun b hb =>
    ⟨(closed.progress.entered b (isOpen_iff.1 ((closed.open_iff b).2 hb)).1).uncached,
      closed.known?_of_open hb⟩
  refine ⟨⟨_, c, by rw [closed.stack, List.head?_cons], closed.ring, fun b => ?_⟩, ?_, fun b hb => ?_,
    congrArg Prod.fst (value_of_cycle detects.inside detects.uncached detects.ends),
    fun b => detects.cached_value⟩
  · rw [closed.mem_ring_iff, cycleCells, List.mem_filter]
  · exact ReflTransGen.mono (fun _ _ => And.left) _ _ closed.reaches_target
  · rcases hb with rfl | on_cycle
    · exact no_value b closed.nested.root_mem
    · exact no_value b ((closed.open_iff b).1 (List.mem_filter.1 on_cycle).2)

/-- The cell outside the cycle leads into it, and the cycle is found at its second cell. -/
theorem detects_exact_beside :
    let s := (((empty 2 3).after (.set ⟨0, 0⟩ "=B1+C1")).after (.set ⟨0, 1⟩ "=C1")).after
      (.set ⟨0, 2⟩ "=B1")
    ∃ target w, s.store.Detects ⟨0, 0⟩ target w ∧ (s.value ⟨0, 0⟩).1 = cycleError ∧
      (∃ cells top, w.stack.head? = some top ∧ s.store.Ring cells target top ∧
        ∀ b, b ∈ cells ↔ b ∈ downTo target w.stack ∧ w.isOpen b = true) ∧
      s.contains ⟨1, 0⟩ = true ∧ ¬ReachesCycle s.store ⟨1, 0⟩ ∧
      ∀ target w, ¬s.store.Detects ⟨1, 0⟩ target w := by
  intro s
  have ends : match (start ⟨0, 0⟩).run s.store with
      | .cycle target w => (target, cycleCells target w) = (⟨0, 2⟩, [⟨0, 1⟩, ⟨0, 2⟩])
      | .finished _ => False := by
    unfold s
    cbv
  split at ends
  · rename_i target w found
    have detects : s.store.Detects ⟨0, 0⟩ target w := {
      inside := by
        unfold s
        cbv
      uncached := by
        unfold s
        cbv
      ends := found }
    have inside : s.contains ⟨1, 0⟩ = true := by
      unfold s
      cbv
    have alone : ¬ReachesCycle s.store ⟨1, 0⟩ := by
      intro reaches
      obtain ⟨b, follows, -⟩ := reaches.exists_follows
      have reads_nothing : (s.store.cell ⟨1, 0⟩).references.toList = [] := by
        unfold s
        cbv
      have mem := Std.ExtTreeSet.mem_toList.2 follows.1
      rw [reads_nothing] at mem
      cases mem
    obtain ⟨ring, -, -, answer, -⟩ := (detects_exact s).1 _ _ _ detects
    exact ⟨target, w, detects, answer, ring, inside, alone,
      (detects_exact s).2 ⟨1, 0⟩ inside alone⟩
  · exact ends.elim

/-- **Every query ends.** Whatever a sheet holds and remembers, the walk for an address has a trail
from its start to its end. On it each cell is entered at most once and computed at most once, and a
cell that is entered is reached along references. The addresses that come on the stack are at most
one more than all references of the entered cells, and these references bound the number of steps
too. -/
theorem value_trail (s : Sheet) (a : Address) :
    ∃ trail, Trail s.store (start a) trail ((start a).run s.store) ∧
      (entries s.store trail).Nodup ∧
      (∀ c, c ∈ ((start a).run s.store).walk.entered ↔ c ∈ entries s.store trail) ∧
      (computations s.store trail).Nodup ∧
      (∀ c, c ∈ ((start a).run s.store).walk.computed ↔ c ∈ computations s.store trail) ∧
      (∀ c ∈ entries s.store trail, ReflTransGen s.store.Reads a c) ∧
      pushes s.store trail ≤
        1 + ((entries s.store trail).map fun c => (s.store.cell c).references.size).sum ∧
      trail.length ≤
        2 + ((entries s.store trail).map fun c => (s.store.cell c).references.size + 1).sum := by
  obtain ⟨trail, ends⟩ := exists_trail s.store (start a)
  obtain ⟨entered_once, -, entered⟩ := ends.entries_once
  obtain ⟨computed_once, -, computed⟩ := ends.computations_once
  refine ⟨trail, ends, entered_once, fun c => ?_, computed_once, fun c => ?_, ?_, ends.pushes_le,
    ends.length_le⟩
  · exact (entered c).trans (or_iff_right Std.ExtTreeSet.not_mem_empty)
  · exact (computed c).trans (or_iff_right Std.ExtTreeMap.not_mem_empty)
  · exact ends.reached fun b hb => List.mem_singleton.1 hb ▸ ReflTransGen.refl

/-- The cell that is read on two ways comes on the stack twice and is entered once. -/
theorem value_trail_shared :
    let s := (((empty 2 2).after (.set ⟨0, 0⟩ "=B1+B2")).after (.set ⟨0, 1⟩ "=B2")).after
      (.set ⟨1, 1⟩ "x")
    ∃ trail, Trail s.store (start ⟨0, 0⟩) trail ((start ⟨0, 0⟩).run s.store) ∧
      (entries s.store trail).Nodup ∧ ⟨1, 1⟩ ∈ entries s.store trail ∧
      ReflTransGen s.store.Reads ⟨0, 0⟩ ⟨1, 1⟩ := by
  intro s
  obtain ⟨trail, ends, once, entered, -, -, reached, -⟩ := value_trail s ⟨0, 0⟩
  have shared : ((start ⟨0, 0⟩).run s.store).walk.entered.contains ⟨1, 1⟩ = true := by
    unfold s
    cbv
  have mem := (entered ⟨1, 1⟩).1 (Std.ExtTreeSet.contains_iff_mem.1 shared)
  exact ⟨trail, ends, once, mem, reached _ mem⟩

end Spreadsheet.Sheet
