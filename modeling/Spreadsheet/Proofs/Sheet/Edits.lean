import Spreadsheet.Proofs.Sheet.History
import Spreadsheet.Proofs.Walk.Query

/-!
# What the calls do to a sheet

For each call, the store it leads to and what can be read there: the bounds, the texts and the
cells. `set_cases` and `formula_after_set` are about setting a text, `store_extend` and
`formula_extend` about adding rows and columns, `store_shrink` and `formula_shrink` about removing
them.
-/

namespace Spreadsheet

/-! ## Bounds -/

namespace Bounds

variable {b : Bounds} {a : Address} {rows columns : Nat}

theorem contains_iff : b.contains a = true ↔ a.row < b.rows ∧ a.col < b.columns := by
  simp [contains]

theorem inBand_iff {inner outer : Bounds} : inner.inBand outer a = true ↔
    (inner.rows ≤ a.row ∧ a.row < outer.rows) ∨
      (inner.columns ≤ a.col ∧ a.col < outer.columns) := by
  simp [inBand]

/-- An address between two bounds lies in the band. -/
theorem inBand_of_contains {inner outer : Bounds} (h : outer.contains a = true)
    (hn : inner.contains a = false) : inner.inBand outer a = true := by
  obtain ⟨row, col⟩ := contains_iff.1 h
  have outside : ¬(a.row < inner.rows ∧ a.col < inner.columns) := fun held => by
    rw [contains_iff.2 held] at hn
    cases hn
  rw [inBand_iff]
  omega

theorem le_extend (b : Bounds) (rows columns : Nat) : b.rows ≤ (b.extend rows columns).rows ∧
    b.columns ≤ (b.extend rows columns).columns := by
  have hr := b.rows_range
  have hc := b.columns_range
  simp only [extend, clamp, clampDimension, leastDimension, greatestDimension] at *
  omega

theorem shrink_le (b : Bounds) (rows columns : Nat) : (b.shrink rows columns).rows ≤ b.rows ∧
    (b.shrink rows columns).columns ≤ b.columns := by
  have hr := b.rows_range
  have hc := b.columns_range
  simp only [shrink, clamp, clampDimension, leastDimension, greatestDimension] at *
  omega

theorem contains_extend (h : b.contains a = true) :
    (b.extend rows columns).contains a = true := by
  obtain ⟨row, col⟩ := contains_iff.1 h
  have le := le_extend b rows columns
  exact contains_iff.2 (by omega)

theorem contains_of_shrink (h : (b.shrink rows columns).contains a = true) :
    b.contains a = true := by
  obtain ⟨row, col⟩ := contains_iff.1 h
  have le := shrink_le b rows columns
  exact contains_iff.2 (by omega)

end Bounds

namespace Sheet

variable {s s' : Sheet} {a : Address} {text : String} {stale : AddressSet} {rows columns : Nat}

/-! ## What an edit does -/

/-- What a text that is set does to a sheet: nothing if it is the same text, and else the new cell
is put and all that it affects is forgotten. -/
theorem set_cases (h : s.set a text = .ok (stale, s')) : s.contains a = true ∧
    (s.formula a = text ∧ stale = ∅ ∧ s' = s ∨
      s.formula a ≠ text ∧ stale = (s.store.put a (Cell.ofText text)).affected [a] ∧
        s'.store = (s.store.put a (Cell.ofText text)).invalidateAll stale) := by
  unfold set at h
  split at h
  · cases h
  · rename_i inside
    refine ⟨by simpa using inside, ?_⟩
    dsimp only at h
    split at h
    · rename_i same
      obtain ⟨rfl, rfl⟩ := Prod.mk.inj (Except.ok.inj h)
      exact Or.inl ⟨same, rfl, rfl⟩
    · rename_i differ
      obtain ⟨rfl, rfl⟩ := Prod.mk.inj (Except.ok.inj h)
      exact Or.inr ⟨differ, rfl, rfl⟩

theorem bounds_set (found : s.set a text = .ok (stale, s')) : s'.bounds = s.bounds := by
  obtain ⟨-, ⟨-, -, rfl⟩ | ⟨-, -, store⟩⟩ := set_cases found
  · rfl
  · rw [bounds, store, Store.bounds_invalidateAll, Store.bounds_put, bounds]

theorem bounds_after_set (s : Sheet) (a : Address) (text : String) :
    (s.after (.set a text)).bounds = s.bounds := by
  cases found : s.set a text with
  | ok r => rw [after_set found, bounds_set found]
  | error e => rw [Sheet.after, found]

/-- Inside the bounds, every text can be set. -/
theorem set_of_contains (inside : s.contains a = true) (text : String) :
    ∃ stale s', s.set a text = .ok (stale, s') := by
  unfold set
  rw [if_neg (by simp [inside])]
  by_cases same : (s.store.cell a).formula = text
  · exact ⟨_, _, if_pos same⟩
  · exact ⟨_, _, if_neg same⟩

/-- A text that is set is the one that is read there, and no other text changes. -/
theorem formula_after_set (inside : s.contains a = true) (b : Address) :
    (s.after (.set a text)).formula b = if a = b then text else s.formula b := by
  obtain ⟨stale, s', found⟩ := set_of_contains inside text
  rw [after_set found]
  obtain ⟨-, ⟨same, -, eq⟩ | ⟨-, -, store⟩⟩ := set_cases found
  · rw [eq]
    split
    · rename_i eq
      exact eq ▸ same
    · rfl
  · rw [formula, store, Cell.formula_congr (Store.forget_cell_invalidateAll _), Store.formula_put]
    rfl

/-- An extension forgets what it puts out of date and changes the bounds. -/
theorem store_extend (s : Sheet) (rows columns : Nat) : (s.extend rows columns).2.store =
    (s.store.invalidateAll (s.extend rows columns).1).resize (s.bounds.extend rows columns) := rfl

theorem bounds_extend (s : Sheet) (rows columns : Nat) :
    (s.extend rows columns).2.bounds = s.bounds.extend rows columns := rfl

theorem formula_extend (s : Sheet) (rows columns : Nat) (a : Address) :
    (s.extend rows columns).2.formula a = s.formula a := by
  rw [formula, store_extend]
  exact Cell.formula_congr (Store.forget_cell_invalidateAll _)

/-- The addresses that a removal of rows and columns puts out of date, those outside of the new
bounds included. -/
def shrinkStale (s : Sheet) (rows columns : Nat) : AddressSet :=
  let new := s.bounds.shrink rows columns
  (s.store.resize new).affected
    ((s.store.cellsReading (new.inBand s.bounds)).filter new.contains)

theorem mem_shrink : a ∈ (s.shrink rows columns).1 ↔
    a ∈ s.shrinkStale rows columns ∧ (s.bounds.shrink rows columns).contains a = true :=
  AddressSet.mem_filter_iff

/-- A removal changes the bounds, forgets what it puts out of date and drops the cells outside. -/
theorem store_shrink (s : Sheet) (rows columns : Nat) : (s.shrink rows columns).2.store =
    ((s.store.resize (s.bounds.shrink rows columns)).invalidateAll
      (s.shrinkStale rows columns)).dropOutside.2 := rfl

theorem bounds_shrink (s : Sheet) (rows columns : Nat) :
    (s.shrink rows columns).2.bounds = s.bounds.shrink rows columns := by
  rw [bounds, store_shrink, Store.dropOutside_eq, Store.bounds_dropCells,
    Store.bounds_invalidateAll]
  rfl

theorem formula_shrink (s : Sheet) (rows columns : Nat) (a : Address) :
    (s.shrink rows columns).2.formula a =
      if (s.bounds.shrink rows columns).contains a = true then s.formula a else "" := by
  rw [formula, store_shrink, Store.formula_dropOutside, Store.bounds_invalidateAll,
    Cell.formula_congr (Store.forget_cell_invalidateAll _)]
  rfl

theorem mem_of_mem_shrink (h : a ∈ (s.shrink rows columns).2.store.entries) :
    a ∈ s.store.entries := by
  rw [store_shrink] at h
  have before : a ∈ (s.store.resize (s.bounds.shrink rows columns)).entries :=
    (Store.mem_invalidateAll _).1 (Store.mem_of_mem_dropCells _ h)
  exact before

theorem cell_shrink_of_mem (h : a ∈ (s.shrink rows columns).2.store.entries) :
    (s.shrink rows columns).2.store.cell a =
      if (s.bounds.shrink rows columns).contains a = true then
        (s.store.invalidateAll (s.shrinkStale rows columns)).cell a
      else Cell.blank := by
  rw [store_shrink] at h ⊢
  rw [Store.cell_dropOutside_of_mem h, Store.bounds_invalidateAll, Store.cell_invalidateAll,
    Store.cell_invalidateAll]
  rfl

theorem bounds_value (s : Sheet) (a : Address) : (s.value a).2.bounds = s.bounds :=
  (Store.value_keeps s.store a).bounds

theorem formula_value (s : Sheet) (a : Address) : (s.value a).2.formula = s.formula :=
  funext fun b => Cell.formula_congr ((Store.value_keeps s.store a).cell b)

end Sheet

end Spreadsheet
