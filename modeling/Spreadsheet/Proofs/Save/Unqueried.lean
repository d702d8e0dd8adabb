import Spreadsheet.CommandLine.Run
import Spreadsheet.Proofs.Save.Reload
import Spreadsheet.Proofs.Sheet.Concurring

/-!
# Loading a saved sheet before the first query

What a sheet answers can depend on what it remembers: of a cycle, the cells that a query found
first. A sheet that was loaded and edited but never queried remembers nothing of a cell with a text
(`Sheet.Fresh`), and neither does the sheet that is loaded from what it saves. They may still differ
in their blank cells, some of which have no value in the saved sheet, but these are settled with the
empty value all the same. So the two sheets concur, and the loaded sheet answers all queries like
the saved one, in any order and with any cycles (`Sheet.Reachable.load_fresh`,
`Sheet.evaluate_congr`).
-/

namespace Spreadsheet.Sheet

open Store

variable {s s' t : Sheet} {a : Address} {text : String} {stale : AddressSet}

/-! ## What is remembered before the first query -/

/-- No cell with a text has a value. -/
def Fresh (s : Sheet) : Prop := ∀ a, s.formula a ≠ "" → (s.store.cell a).cached = none

theorem fresh_empty (rows columns : Nat) : (empty rows columns).Fresh := fun _ text =>
  absurd rfl text

/-- An edit gives no values. -/
theorem Fresh.edit (h : s.Fresh) (hs : s.Sound) (edit : s.Edit stale s') : s'.Fresh := by
  intro a text
  obtain ⟨kept, spares, -⟩ := edit.spares hs
  have stored : a ∈ s'.store.entries := mem_of_formula_ne text
  by_cases ha : kept a
  · rw [spares.cell a stored ha]
    exact h a (spares.formula a ha ▸ text)
  · rcases spares.fresh a stored ha with none | blank
    · exact none
    · exact absurd (congrArg Cell.formula blank) text

/-- A sheet that was saved has no values. -/
theorem Fresh.of_saved {saved : SavedSheet} (h : ofSaved saved = .ok s) : s.Fresh := by
  refine (restore_induct (P := fun s => s.Sound ∧ s.Fresh) _ (fun s s' stale c _ found hs => ?_)
    ⟨sound_empty _ _, fresh_empty _ _⟩ h).2
  exact ⟨hs.1.set found, hs.2.edit hs.1 (.set found)⟩

/-- A loaded sheet has no values. -/
theorem Fresh.of_load (h : load text = .ok s) : s.Fresh := by
  unfold load at h
  split at h
  · exact .of_saved h
  · cases h

/-! ## The loaded sheet -/

/-- Sheets with the same bounds and texts concur if neither was queried. -/
theorem Fresh.concurs (fresh : s.Fresh) (fresh' : t.Fresh) (hs : s.Reachable) (ht : t.Reachable)
    (bounds : t.bounds = s.bounds) (formula : ∀ a, t.formula a = s.formula a) : s.Concurs t := by
  refine .of_texts hs.sound ht.sound hs.coherent ht.coherent bounds formula
    (fun a v text remembered => ?_) fun a v text remembered => ?_
  · cases remembered.cached.symm.trans (fresh a text)
  · cases remembered.cached.symm.trans (fresh' a text)

/-- **What a sheet saves is loaded as a sheet that concurs with it**, if it was not queried
before. -/
theorem Reachable.load_fresh (h : s.Reachable) (fresh : s.Fresh) :
    ∃ t, Sheet.load s.save = .ok t ∧ s.Concurs t := by
  have read : SavedSheet.ofText? s.save = some s.saved := h.sound.fits_saved.ofText?_eq
  obtain ⟨t, restored, bounds, formula⟩ := h.sound.ofSaved_saved
  have loaded : Sheet.load s.save = .ok t := by
    rw [Sheet.load, read]
    exact restored
  exact ⟨t, loaded, fresh.concurs (.of_load loaded) h (.load loaded) bounds formula⟩

/-- **The value of an expression is the same** in sheets that concur. -/
theorem evaluate_congr (h : s.Concurs t) (e : Expr) : (t.evaluate e).1 = (s.evaluate e).1 := by
  have values := (h.queryAll (fun a h => h.value a) e.references.toList).1
  simp only [evaluate, values]

end Spreadsheet.Sheet
