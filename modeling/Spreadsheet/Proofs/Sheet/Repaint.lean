import Spreadsheet.Proofs.Sheet.Memoization
import Spreadsheet.Proofs.Walk.Locality

/-!
# What has to be shown again

An edit answers the addresses whose values it made out of date. Every other address that lies inside
the bounds before and after the edit has the value it had (`Sheet.Reachable.value_edit`), so a grid
that shows only the answered cells again is up to date. This holds also for cells that reach a
cycle, whatever the sheet remembers of them: a query takes the same steps before and after the edit.
-/

namespace Spreadsheet.Sheet

open Relation Store

variable {s s' : Sheet} {a : Address} {stale : AddressSet} {kept : Address → Prop}

/-- The stored cells among the spared ones are the same before and after, and closed under
references: a reference of a stored cell is stored. -/
theorem Spares.agree (spares : Spares s s' kept) (hs : s.Sound) (hs' : s'.Sound) :
    s.store.Agree s'.store fun a => kept a ∧ a ∈ s'.store.entries where
  cell a ha := spares.cell a ha.2 ha.1
  contains a r ha reads := spares.contains a r ha.1 reads
  closed a r ha follows := by
    have reads : s'.store.Reads a r := (spares.reads hs hs' ha.1).2 follows.1
    exact ⟨spares.closed a r ha.1 follows, hs'.linked.mem_of_reads reads⟩

/-- **The answer of an edit is a sound repaint set**: an address that lies inside the bounds before
and after an edit and is not answered by it has the value it had. -/
theorem Reachable.value_edit (h : s.Reachable) (edit : s.Edit stale s')
    (before : s.contains a = true) (after : s'.contains a = true) (spared : a ∉ stale) :
    (s'.value a).1 = (s.value a).1 := by
  have hs := h.sound
  have h' := edit.reachable h
  have hs' := h'.sound
  obtain ⟨kept, spares, hkept⟩ := edit.spares hs
  have ha : kept a := hkept a after spared
  by_cases stored : a ∈ s'.store.entries
  · exact (spares.agree hs hs').value_congr hs.linked ⟨ha, stored⟩ (after.trans before.symm)
  · -- the entry may have been left out by the edit, together with the value in it
    have blank' : s'.formula a = "" := by
      rw [formula, cell_of_not_mem stored]
      rfl
    have blank : s.formula a = "" := (spares.formula a ha).symm.trans blank'
    have value := h.coherent.recalculates hs (not_reachesCycle_of_blank hs blank)
    have value' := h'.coherent.recalculates hs' (not_reachesCycle_of_blank hs' blank')
    exact value'.unique (spares.recalculates value (fun _ => ha) (after.trans before.symm) hs)

/-- A cell that reads nothing of the new row keeps its value. -/
theorem value_extended :
    let s := (empty 2 2).after (.set ⟨0, 0⟩ "=B1")
    (((s.extend 1 0).2).value ⟨0, 0⟩).1 = (s.value ⟨0, 0⟩).1 := by
  intro s
  have reachable : s.Reachable := (Reachable.empty 2 2).after (.set ⟨0, 0⟩ "=B1")
  have spared : (s.extend 1 0).1.contains ⟨0, 0⟩ = false := by cbv
  refine reachable.value_edit (.extend 1 0) (by cbv) (by cbv) ?_
  rw [← Std.ExtTreeSet.contains_iff_mem, spared]
  exact Bool.false_ne_true

end Spreadsheet.Sheet
