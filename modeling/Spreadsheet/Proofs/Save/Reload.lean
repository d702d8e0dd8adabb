import Spreadsheet.Proofs.Save.Documents
import Spreadsheet.Proofs.Sheet.Listing

/-!
# Loading undoes saving

A sheet is saved as the list of its texts and loaded by setting them one after the other. All of
them lie inside the bounds, so none is refused, and the last text for an address stays
(`Sheet.restore_of_inside`); so the loaded sheet has the texts of the saved one. Since the texts say
all that is stored (`Sheet.Reachable.alike`), the loaded sheet is alike, however the saved one came
about (`Sheet.Reachable.load_save`).
-/

namespace Spreadsheet

namespace SavedCell

/-- The address of a saved cell. -/
def address (c : SavedCell) : Address := ⟨c.row, c.column⟩

variable {c : SavedCell} {cells : List SavedCell} {a : Address} {text : String}

/-! ## The last text for an address -/

/-- The text of the last cell at an address. -/
def lastText? (cells : List SavedCell) (a : Address) : Option String :=
  (cells.filter fun c => c.address = a).getLast?.map SavedCell.formula

theorem lastText?_cons : lastText? (c :: cells) a =
    (lastText? cells a).or (if c.address = a then some c.formula else none) := by
  rw [lastText?, lastText?, List.filter_cons]
  by_cases eq : c.address = a
  · rw [if_pos eq, if_pos (decide_eq_true eq), List.getLast?_cons]
    cases (cells.filter fun c => c.address = a).getLast? <;> rfl
  · rw [if_neg eq, if_neg (by simpa using eq), Option.or_none]

theorem exists_of_lastText? (h : lastText? cells a = some text) :
    ∃ c ∈ cells, c.address = a ∧ c.formula = text := by
  obtain ⟨c, last, rfl⟩ := Option.map_eq_some_iff.1 h
  obtain ⟨listed, here⟩ := List.mem_filter.1 (List.mem_of_getLast? last)
  exact ⟨c, listed, of_decide_eq_true here, rfl⟩

theorem ne_of_lastText?_eq_none (h : lastText? cells a = none) (listed : c ∈ cells) :
    c.address ≠ a := by
  intro here
  have none := List.getLast?_eq_none_iff.1 (Option.map_eq_none_iff.1 h)
  exact List.not_mem_nil (none ▸ List.mem_filter.2 ⟨listed, decide_eq_true here⟩)

end SavedCell

namespace Sheet

variable {s : Sheet} {a : Address}

/-! ## What is saved -/

theorem mem_saved {c : SavedCell} :
    c ∈ s.saved.cells ↔ c.formula ≠ "" ∧ s.formula c.address = c.formula := by
  rw [← mem_cells, saved, List.mem_map]
  constructor
  · rintro ⟨⟨a, text⟩, mem, rfl⟩
    exact mem
  · intro mem
    exact ⟨_, mem, rfl⟩

/-- The saved cells are strictly increasing in row-major order. -/
theorem ordered_saved (s : Sheet) : s.saved.cells.Pairwise fun c d =>
    c.row < d.row ∨ c.row = d.row ∧ c.column < d.column := by
  rw [saved, List.pairwise_map]
  exact List.Pairwise.imp Address.compare_lt_iff.1 s.ordered_cells

theorem Sound.inside_of_mem_saved (h : s.Sound) {c : SavedCell} (mem : c ∈ s.saved.cells) :
    s.contains c.address = true := by
  obtain ⟨not_empty, text⟩ := mem_saved.1 mem
  exact h.inside _ (text ▸ not_empty)

theorem greatestDimension_lt : greatestDimension < Text.wordLimit := by
  decide

/-- The numbers of a sheet are far from the limit of a machine word. -/
theorem Sound.fits_saved (h : s.Sound) : s.saved.Fits := by
  have rows : s.bounds.rows < Text.wordLimit :=
    Nat.lt_of_le_of_lt s.bounds.rows_range.2 greatestDimension_lt
  have columns : s.bounds.columns < Text.wordLimit :=
    Nat.lt_of_le_of_lt s.bounds.columns_range.2 greatestDimension_lt
  refine ⟨rows, columns, fun c mem => ?_⟩
  obtain ⟨row, column⟩ := Bounds.contains_iff.1 (h.inside_of_mem_saved mem)
  exact ⟨row.trans rows, column.trans columns⟩

/-! ## What is loaded -/

theorem restore_cons {s' : Sheet} {stale : AddressSet} {c : SavedCell}
    (found : s.set c.address c.formula = .ok (stale, s')) (cells : List SavedCell) :
    s.restore (c :: cells) = s'.restore cells := by
  rw [SavedCell.address] at found
  rw [restore, found]

/-- **Cells inside the bounds are restored**: each address has the last of its texts then, if there
is one. -/
theorem restore_of_inside (cells : List SavedCell)
    (inside : ∀ c ∈ cells, s.contains c.address = true) :
    ∃ t, s.restore cells = .ok t ∧ t.bounds = s.bounds ∧
      ∀ a, t.formula a = (SavedCell.lastText? cells a).getD (s.formula a) := by
  induction cells generalizing s with
  | nil => exact ⟨s, rfl, rfl, fun a => rfl⟩
  | cons c cells ih =>
    obtain ⟨first, rest⟩ := List.forall_mem_cons.1 inside
    obtain ⟨stale, s', found⟩ := set_of_contains first c.formula
    have bounds : s'.bounds = s.bounds := bounds_set found
    obtain ⟨t, restored, bounds', formula⟩ := ih (s := s')
      fun d hd => by rw [contains, bounds]; exact rest d hd
    refine ⟨t, ?_, bounds'.trans bounds, fun a => ?_⟩
    · rw [restore_cons found, restored]
    · have set : s'.formula a = if c.address = a then c.formula else s.formula a := by
        rw [← after_set found]
        exact formula_after_set first a
      rw [formula, set, SavedCell.lastText?_cons]
      cases SavedCell.lastText? cells a with
      | some text => rfl
      | none => split <;> rfl

/-- The texts of a sheet are loaded again. -/
theorem Sound.ofSaved_saved (h : s.Sound) : ∃ t, ofSaved s.saved = .ok t ∧ t.bounds = s.bounds ∧
    ∀ a, t.formula a = s.formula a := by
  have bounds : (empty s.saved.rows s.saved.columns).bounds = s.bounds := s.bounds.clamp_self
  obtain ⟨t, restored, bounds', formula⟩ :=
    restore_of_inside (s := empty s.saved.rows s.saved.columns) s.saved.cells
      fun c hc => by rw [contains, bounds]; exact h.inside_of_mem_saved hc
  refine ⟨t, restored, bounds'.trans bounds, fun a => ?_⟩
  rw [formula]
  cases last : SavedCell.lastText? s.saved.cells a with
  | some text =>
    obtain ⟨c, listed, rfl, rfl⟩ := SavedCell.exists_of_lastText? last
    exact (mem_saved.1 listed).2.symm
  | none =>
    have blank : s.formula a = "" := by
      by_contra text
      have listed : ⟨a.row, a.col, s.formula a⟩ ∈ s.saved.cells := mem_saved.2 ⟨text, rfl⟩
      exact SavedCell.ne_of_lastText?_eq_none last listed rfl
    rw [blank]
    rfl

/-- **Loading undoes saving.** The text of a sheet stands for its texts, those that are not empty,
in row-major order; it is loaded without an error, as a sheet that is alike and has the same
text. -/
theorem Reachable.load_save (h : s.Reachable) :
    SavedSheet.ofText? s.save = some s.saved ∧
      (∀ c, c ∈ s.saved.cells ↔ c.formula ≠ "" ∧ s.formula ⟨c.row, c.column⟩ = c.formula) ∧
      (s.saved.cells.Pairwise fun c d => c.row < d.row ∨ c.row = d.row ∧ c.column < d.column) ∧
      ∃ t, Sheet.load s.save = .ok t ∧ s.Alike t ∧ t.save = s.save := by
  have read : SavedSheet.ofText? s.save = some s.saved := h.sound.fits_saved.ofText?_eq
  refine ⟨read, fun c => mem_saved, s.ordered_saved, ?_⟩
  obtain ⟨t, loaded, bounds, formula⟩ := h.sound.ofSaved_saved
  have found : Sheet.load s.save = .ok t := by
    rw [Sheet.load, read]
    exact loaded
  have alike : s.Alike t := h.alike (.load found) bounds formula
  have saved_again : t.saved = s.saved := by rw [saved, saved, alike.bounds, alike.cells]
  exact ⟨t, found, alike, congrArg SavedSheet.toText saved_again⟩

/-- A sheet with a reference out of its bounds is loaded again, before and after a query. -/
theorem load_save_queried :
    let s := ((empty 2 2).after (.set ⟨1, 0⟩ "=C3")).after (.value ⟨1, 0⟩)
    ∃ t, Sheet.load s.save = .ok t ∧ s.Alike t ∧ t.save = s.save := by
  intro s
  have reachable : s.Reachable := ((Reachable.empty 2 2).after _).after _
  exact reachable.load_save.2.2.2

end Sheet

end Spreadsheet
