import Spreadsheet.Proofs.Save.Unqueried

/-!
# Loading any document

A saved sheet may list its cells in any order, some of them twice and some with an empty text. It is
loaded if all of them lie inside the bounds (`Sheet.restore_of_inside`), and otherwise refused for
the first one that does not (`Sheet.restore_of_outside`). The loaded sheet has the last text for each
address. It was never queried, so these texts and the bounds are all that it can be told by; a list
in which the cells at each address come in the same order is loaded as the same sheet
(`Sheet.ofSaved_replay`).
-/

namespace Spreadsheet

namespace SavedCell

variable {cells cells' : List SavedCell} {a : Address}

/-! ## Other orders -/

/-- The second list has the cells of the first one, and those at each address in the same order. -/
def Reordered (cells cells' : List SavedCell) : Prop :=
  ∀ a, (cells'.filter fun c => c.address = a) = cells.filter fun c => c.address = a

/-- Each cell comes as often in both lists. -/
theorem Reordered.perm (h : Reordered cells cells') : cells'.Perm cells := by
  rw [List.perm_iff_count]
  intro c
  have same := congrArg (List.count c) (h c.address)
  rwa [List.count_filter (by simp), List.count_filter (by simp)] at same

theorem Reordered.lastText? (h : Reordered cells cells') :
    SavedCell.lastText? cells' a = SavedCell.lastText? cells a := by
  rw [SavedCell.lastText?, h, SavedCell.lastText?]

end SavedCell

namespace Sheet

variable {s : Sheet} {c : SavedCell} {saved : SavedSheet}

/-! ## Loading -/

/-- **A cell outside the bounds is refused**, the first one that comes. -/
theorem restore_of_outside {cells : List SavedCell}
    (first : cells.find? (fun c => !s.contains c.address) = some c) :
    s.restore cells = .error (.outOfBounds c.address s.bounds) := by
  induction cells generalizing s with
  | nil => cases first
  | cons d cells ih =>
    cases inside : s.contains d.address with
    | false =>
      rw [List.find?_cons_of_pos (by rw [inside]; rfl)] at first
      obtain rfl := Option.some.inj first
      have refused : s.set d.address d.formula = .error (.outOfBounds d.address s.bounds) := by
        simp [Sheet.set, inside]
      rw [SavedCell.address] at refused
      rw [restore, refused]
      rfl
    | true =>
      rw [List.find?_cons_of_neg (by rw [inside]; simp)] at first
      obtain ⟨stale, s', found⟩ := set_of_contains inside d.formula
      have bounds : s'.bounds = s.bounds := bounds_set found
      have contains : s'.contains = s.contains := by
        funext a
        rw [Sheet.contains, bounds, Sheet.contains]
      rw [restore_cons found, ← bounds]
      exact ih (by rw [contains]; exact first)

/-- Every document is loaded with the last text for each address, or refused for its first cell
outside the bounds. -/
theorem ofSaved_cases (saved : SavedSheet) :
    let bounds := Bounds.clamp saved.rows saved.columns
    ((∀ c ∈ saved.cells, bounds.contains c.address = true) ∧ ∃ s, ofSaved saved = .ok s ∧
      s.bounds = bounds ∧ ∀ a, s.formula a = (SavedCell.lastText? saved.cells a).getD "") ∨
    ∃ c ∈ saved.cells, bounds.contains c.address = false ∧
      saved.cells.find? (fun c => !bounds.contains c.address) = some c ∧
      ofSaved saved = .error (.outOfBounds c.address bounds) := by
  intro bounds
  cases first : saved.cells.find? fun c => !bounds.contains c.address with
  | none =>
    have inside : ∀ c ∈ saved.cells, bounds.contains c.address = true := fun c hc => by
      simpa using List.find?_eq_none.1 first c hc
    obtain ⟨s, restored, same, formula⟩ :=
      restore_of_inside (s := empty saved.rows saved.columns) saved.cells inside
    exact Or.inl ⟨inside, s, restored, same, formula⟩
  | some c =>
    have outside : bounds.contains c.address = false := by
      simpa using List.find?_some first
    exact Or.inr ⟨c, List.mem_of_find?_eq_some first, outside, rfl,
      restore_of_outside (s := empty saved.rows saved.columns) first⟩

theorem exists_ofSaved_iff : (∃ s, ofSaved saved = .ok s) ↔
    ∀ c ∈ saved.cells, (Bounds.clamp saved.rows saved.columns).contains c.address = true := by
  rcases ofSaved_cases saved with ⟨inside, s, loaded, -⟩ | ⟨c, hc, outside, -, refused⟩
  · exact ⟨fun _ => inside, fun _ => ⟨s, loaded⟩⟩
  · constructor
    · rintro ⟨s, loaded⟩
      cases refused.symm.trans loaded
    · intro inside
      cases outside.symm.trans (inside c hc)

theorem ofSaved_eq_error_iff {e : SheetError} : ofSaved saved = .error e ↔
    ∃ c, saved.cells.find? (fun c =>
        !(Bounds.clamp saved.rows saved.columns).contains c.address) = some c ∧
      e = .outOfBounds c.address (.clamp saved.rows saved.columns) := by
  rcases ofSaved_cases saved with ⟨inside, s, loaded, -⟩ | ⟨c, -, -, first, refused⟩
  · constructor
    · intro failed
      cases loaded.symm.trans failed
    · rintro ⟨c, first, -⟩
      have outside := List.find?_some first
      rw [inside c (List.mem_of_find?_eq_some first)] at outside
      cases outside
  · constructor
    · intro failed
      exact ⟨c, first, (Except.error.inj (refused.symm.trans failed)).symm⟩
    · rintro ⟨d, first', rfl⟩
      rw [refused, Option.some.inj (first.symm.trans first')]

theorem bounds_formula_ofSaved (h : ofSaved saved = .ok s) :
    s.bounds = .clamp saved.rows saved.columns ∧
      ∀ a, s.formula a = (SavedCell.lastText? saved.cells a).getD "" := by
  rcases ofSaved_cases saved with ⟨-, t, loaded, same⟩ | ⟨c, -, -, -, refused⟩
  · cases loaded.symm.trans h
    exact same
  · cases refused.symm.trans h

/-! ## Loading in another order -/

/-- A sheet that was saved is reachable: its cells are set one by one. -/
theorem Reachable.ofSaved (h : ofSaved saved = .ok s) : s.Reachable := by
  refine restore_induct (P := Reachable) _ (fun s s' stale c _ found hs => ?_) (.empty _ _) h
  rw [← after_set found]
  exact hs.after _

/-- A document in another order is loaded as a sheet with the same bounds and texts. -/
theorem ofSaved_reordered {cells : List SavedCell} (h : ofSaved saved = .ok s)
    (order : SavedCell.Reordered saved.cells cells) :
    ∃ t, ofSaved { saved with cells := cells } = .ok t ∧ t.bounds = s.bounds ∧
      ∀ a, t.formula a = s.formula a := by
  have inside := exists_ofSaved_iff.1 ⟨s, h⟩
  obtain ⟨t, loaded⟩ : ∃ t, ofSaved { saved with cells := cells } = .ok t :=
    exists_ofSaved_iff.2 fun c hc => inside c (order.perm.mem_iff.1 hc)
  obtain ⟨bounds, formula⟩ := bounds_formula_ofSaved h
  obtain ⟨bounds', formula'⟩ := bounds_formula_ofSaved loaded
  refine ⟨t, loaded, bounds'.trans bounds.symm, fun a => ?_⟩
  rw [formula', formula, order.lastText?]

/-- **Loading replays a document.** It succeeds if all cells lie inside the bounds, and otherwise
fails for the first one that does not. The last text for an address stays. The order in which
different addresses come leaves no trace: neither in what is stored nor in any answer, whatever is
asked and edited afterwards. -/
theorem ofSaved_replay (saved : SavedSheet) :
    let bounds := Bounds.clamp saved.rows saved.columns
    ((∃ s, ofSaved saved = .ok s) ↔ ∀ c ∈ saved.cells, bounds.contains c.address = true) ∧
    (∀ e, ofSaved saved = .error e ↔
      ∃ c, saved.cells.find? (fun c => !bounds.contains c.address) = some c ∧
        e = .outOfBounds c.address bounds) ∧
    ∀ s, ofSaved saved = .ok s → s.bounds = bounds ∧
      (∀ a, s.formula a = (SavedCell.lastText? saved.cells a).getD "") ∧
      ∀ cells, SavedCell.Reordered saved.cells cells →
        ∃ t, ofSaved { saved with cells := cells } = .ok t ∧ s.Alike t ∧
          (∀ a, (t.value a).1 = (s.value a).1) ∧
          ∀ calls : List Call, (calls.foldl after s).AnswersAlike (calls.foldl after t) := by
  intro bounds
  refine ⟨exists_ofSaved_iff, fun e => ofSaved_eq_error_iff, fun s loaded => ?_⟩
  obtain ⟨same, formula⟩ := bounds_formula_ofSaved loaded
  refine ⟨same, formula, fun cells order => ?_⟩
  obtain ⟨t, loaded', bounds', formula'⟩ := ofSaved_reordered loaded order
  have reachable : s.Reachable := .ofSaved loaded
  have reachable' : t.Reachable := .ofSaved loaded'
  have concurs : s.Concurs t :=
    (Fresh.of_saved loaded).concurs (.of_saved loaded') reachable reachable' bounds' formula'
  exact ⟨t, loaded', reachable.alike reachable' bounds' formula', fun a => (concurs.value a).1,
    fun calls => (concurs.foldl_after calls).answersAlike⟩

/-- A text that is cleared by a later cell leaves nothing behind, wherever the cell that reads it
comes. -/
theorem ofSaved_replay_cleared :
    let saved : SavedSheet := ⟨0, 0, [⟨0, 1, "=A1"⟩, ⟨0, 0, "x"⟩, ⟨0, 0, ""⟩]⟩
    let cells : List SavedCell := [⟨0, 0, "x"⟩, ⟨0, 1, "=A1"⟩, ⟨0, 0, ""⟩]
    SavedCell.Reordered saved.cells cells ∧
      ∃ s t, ofSaved saved = .ok s ∧ ofSaved { saved with cells := cells } = .ok t ∧
        s.formula ⟨0, 0⟩ = "" ∧ s.Alike t ∧ ∀ a, (t.value a).1 = (s.value a).1 := by
  intro saved cells
  obtain ⟨accepted, -, replay⟩ := ofSaved_replay saved
  have order : SavedCell.Reordered saved.cells cells := by
    intro a
    by_cases eq : (⟨0, 0⟩ : Address) = a
    · subst eq
      decide
    · simp [saved, cells, SavedCell.address, List.filter_cons, eq]
  obtain ⟨s, loaded⟩ := accepted.2 (by decide)
  obtain ⟨-, formula, reordered⟩ := replay s loaded
  obtain ⟨t, loaded', alike, values, -⟩ := reordered cells order
  exact ⟨order, s, t, loaded, loaded', formula _, alike, values⟩

end Sheet

end Spreadsheet
