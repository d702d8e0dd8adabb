import Spreadsheet.Proofs.Sheet.Listing

/-!
# Sheets and plain grids

A grid is what a caller takes a sheet for: two numbers and a finite map of texts. Each call on a
sheet has its plain counterpart on a grid, in which nothing but these three is changed. A sheet
shows a grid if it has the same bounds and texts (`Sheet.Shows`); every call keeps this
(`Shows.after`), so after any calls a sheet and the grid are told apart by nothing that the bounds,
the texts and the list of cells say (`Sheet.refines_grid`).
-/

namespace Spreadsheet

open Sheet (Call)

/-- An allowed number can only become too large. -/
theorem clampDimension_add {n : Nat} (range : leastDimension ≤ n) (k : Nat) :
    clampDimension (n + k) = min 10000 (n + k) := by
  simp only [clampDimension, leastDimension, greatestDimension] at range ⊢
  omega

/-- An allowed number can only become too small. -/
theorem clampDimension_sub {n : Nat} (range : n ≤ greatestDimension) (k : Nat) :
    clampDimension (n - k) = max 2 (n - k) := by
  simp only [clampDimension, leastDimension, greatestDimension] at range ⊢
  omega

/-- Bounds that are not clamped when they grow are the same again when they shrink. -/
theorem Bounds.shrink_extend {b : Bounds} {rows columns : Nat}
    (rows_fit : b.rows + rows ≤ greatestDimension)
    (columns_fit : b.columns + columns ≤ greatestDimension) :
    (b.extend rows columns).shrink rows columns = b := by
  have row_range := b.rows_range
  have column_range := b.columns_range
  have grown : clampDimension (b.rows + rows) = b.rows + rows :=
    clampDimension_of_range ⟨by omega, rows_fit⟩
  have widened : clampDimension (b.columns + columns) = b.columns + columns :=
    clampDimension_of_range ⟨by omega, columns_fit⟩
  simp only [extend, shrink, clamp, grown, widened, Nat.add_sub_cancel]
  exact clamp_self b

/-! ## Grids -/

/-- The numbers of rows and columns, and the texts that are not empty. -/
structure Grid where
  rows : Nat
  columns : Nat
  texts : AddressMap String

namespace Grid

/-- The grid without texts; the numbers of rows and columns are clamped. -/
def new (rows columns : Nat) : Grid :=
  ⟨max 2 (min rows 10000), max 2 (min columns 10000), ∅⟩

/-- Whether an address lies in the grid. -/
def contains (g : Grid) (a : Address) : Bool :=
  decide (a.row < g.rows) && decide (a.col < g.columns)

/-- The text at an address, empty if there is none. -/
def text (g : Grid) (a : Address) : String := g.texts[a]?.getD ""

/-- Puts a text at an address of the grid; an empty text takes the one there away. -/
def set (g : Grid) (a : Address) (text : String) : Option Grid :=
  if g.contains a then
    some { g with texts := if text = "" then g.texts.erase a else g.texts.insert a text }
  else none

/-- Adds rows and columns. -/
def extend (g : Grid) (rows columns : Nat) : Grid :=
  { g with rows := min 10000 (g.rows + rows), columns := min 10000 (g.columns + columns) }

/-- Removes rows and columns with the texts in them. -/
def shrink (g : Grid) (rows columns : Nat) : Grid :=
  let smaller : Grid := ⟨max 2 (g.rows - rows), max 2 (g.columns - columns), g.texts⟩
  { smaller with texts := g.texts.filter fun a _ => smaller.contains a }

/-- The grid after a call; a query changes nothing. -/
def after (g : Grid) : Call → Grid
  | .set a text => (g.set a text).getD g
  | .value _ => g
  | .extend rows columns => g.extend rows columns
  | .shrink rows columns => g.shrink rows columns

end Grid

namespace Sheet

variable {s : Sheet} {g : Grid} {a : Address} {text : String} {rows columns : Nat}

/-- The sheet has the bounds of the grid and its texts, which are those that are not empty. -/
structure Shows (s : Sheet) (g : Grid) : Prop where
  rows : s.bounds.rows = g.rows
  columns : s.bounds.columns = g.columns
  texts : ∀ a, g.texts[a]? = if s.formula a = "" then none else some (s.formula a)

namespace Shows

theorem contains (h : s.Shows g) (a : Address) : s.contains a = g.contains a := by
  rw [Sheet.contains, Bounds.contains, h.rows, h.columns, Grid.contains]

theorem formula (h : s.Shows g) (a : Address) : s.formula a = g.text a := by
  rw [Grid.text, h.texts]
  split
  · rename_i blank
    rw [blank]
    rfl
  · rfl

/-- Both list the same cells. -/
theorem cells (h : s.Shows g) : s.cells = g.texts.toList := by
  refine s.ordered_cells.eq_of_mem_iff (Ordered.toList g.texts) fun (a, text) => ?_
  rw [mem_cells, Std.ExtTreeMap.mem_toList_iff_getElem?_eq_some, h.texts]
  by_cases blank : s.formula a = ""
  · simp +contextual [blank, eq_comm]
  · rw [if_neg blank, Option.some.injEq]
    exact and_iff_right_of_imp fun same => same ▸ blank

theorem empty (rows columns : Nat) : (empty rows columns).Shows (.new rows columns) where
  rows := rfl
  columns := rfl
  texts a := by
    have blank : (Sheet.empty rows columns).formula a = "" := rfl
    rw [if_pos blank]
    exact Std.ExtTreeMap.getElem?_empty

/-- A text is refused by both or by none. -/
theorem set_eq_error_iff (h : s.Shows g) {e : SheetError} :
    s.set a text = .error e ↔ g.set a text = none ∧ e = .outOfBounds a s.bounds := by
  rw [Grid.set, ← h.contains]
  cases inside : s.contains a with
  | true =>
    obtain ⟨stale, s', found⟩ := set_of_contains inside text
    simp [found]
  | false =>
    simp [Sheet.set, inside, eq_comm]

theorem set (h : s.Shows g) (a : Address) (text : String) :
    (s.after (.set a text)).Shows (g.after (.set a text)) := by
  rw [Grid.after, Grid.set, ← h.contains]
  cases inside : s.contains a with
  | true =>
    refine
      { rows := by rw [bounds_after_set]; exact h.rows
        columns := by rw [bounds_after_set]; exact h.columns
        texts := fun b => ?_ }
    rw [formula_after_set inside]
    by_cases eq : a = b
    · subst eq
      by_cases blank : text = ""
      · simp [blank]
      · simp [blank]
    · have ne : compare a b ≠ .eq := mt Std.LawfulEqOrd.eq_of_compare eq
      rw [if_neg eq, ← h.texts]
      by_cases blank : text = ""
      · simp [blank, Std.ExtTreeMap.getElem?_erase, ne]
      · simp [blank, Std.ExtTreeMap.getElem?_insert, ne]
  | false =>
    have refused : s.set a text = .error (.outOfBounds a s.bounds) := by simp [Sheet.set, inside]
    have same : s.after (.set a text) = s := by rw [Sheet.after, refused]
    rw [same]
    exact h

theorem extend (h : s.Shows g) (rows columns : Nat) :
    (s.extend rows columns).2.Shows (g.extend rows columns) where
  rows := (clampDimension_add s.bounds.rows_range.1 rows).trans (by rw [h.rows]; rfl)
  columns := (clampDimension_add s.bounds.columns_range.1 columns).trans (by rw [h.columns]; rfl)
  texts a := by
    rw [formula_extend]
    exact h.texts a

theorem shrink (h : s.Shows g) (rows columns : Nat) :
    (s.shrink rows columns).2.Shows (g.shrink rows columns) := by
  have row_bound : (s.bounds.shrink rows columns).rows = max 2 (g.rows - rows) := by
    rw [← h.rows]
    exact clampDimension_sub s.bounds.rows_range.2 rows
  have column_bound : (s.bounds.shrink rows columns).columns = max 2 (g.columns - columns) := by
    rw [← h.columns]
    exact clampDimension_sub s.bounds.columns_range.2 columns
  refine
    { rows := by rw [bounds_shrink, row_bound]; rfl
      columns := by rw [bounds_shrink, column_bound]; rfl
      texts := fun a => ?_ }
  have inside : (g.shrink rows columns).contains a = (s.bounds.shrink rows columns).contains a := by
    rw [Bounds.contains, row_bound, column_bound]
    rfl
  have kept : (g.shrink rows columns).texts[a]? =
      g.texts[a]?.filter fun _ => (g.shrink rows columns).contains a :=
    Std.ExtTreeMap.getElem?_filter'
  rw [kept, inside, formula_shrink, h.texts]
  by_cases blank : s.formula a = ""
  · simp [blank]
  · cases (s.bounds.shrink rows columns).contains a with
    | true => simp [blank, Option.filter]
    | false => simp [blank, Option.filter]

theorem value (h : s.Shows g) (a : Address) : (s.value a).2.Shows g where
  rows := by rw [bounds_value, h.rows]
  columns := by rw [bounds_value, h.columns]
  texts := by
    rw [formula_value]
    exact h.texts

/-- **One call** on a sheet does to the grid that it shows what the plain call does. -/
theorem after (h : s.Shows g) (c : Call) : (s.after c).Shows (g.after c) := by
  cases c with
  | set a text => exact h.set a text
  | value a => exact h.value a
  | extend rows columns => exact h.extend rows columns
  | shrink rows columns => exact h.shrink rows columns

/-- **Any calls** lead from a sheet that shows a grid to one that shows the grid after them. -/
theorem foldl_after (h : s.Shows g) (calls : List Call) :
    (calls.foldl Sheet.after s).Shows (calls.foldl Grid.after g) := by
  induction calls generalizing s g with
  | nil => exact h
  | cons c calls ih => exact ih (h.after c)

end Shows

/-- Calls lead from a reachable sheet to a reachable sheet. -/
theorem Reachable.foldl_after (h : s.Reachable) (calls : List Call) :
    (calls.foldl Sheet.after s).Reachable := by
  induction calls generalizing s with
  | nil => exact h
  | cons c calls ih => exact ih (h.after c)

/-! ## Adding and removing the same -/

/-- Rows and columns that are added and removed again leave nothing behind. -/
theorem Reachable.alike_shrink_extend (h : s.Reachable)
    (rows_fit : s.bounds.rows + rows ≤ greatestDimension)
    (columns_fit : s.bounds.columns + columns ≤ greatestDimension) :
    s.Alike ((s.extend rows columns).2.shrink rows columns).2 := by
  have bounds : ((s.extend rows columns).2.shrink rows columns).2.bounds = s.bounds := by
    rw [bounds_shrink]
    exact Bounds.shrink_extend rows_fit columns_fit
  refine h.alike ((h.after (.extend rows columns)).after (.shrink rows columns)) bounds fun a => ?_
  rw [formula_shrink, formula_extend, ← bounds_shrink, bounds]
  split
  · rfl
  · rename_i outside
    exact (not_not.1 (mt (h.sound.inside a) outside)).symm

/-- **A sheet refines a plain grid.** After any calls from a new sheet, the bounds, the texts and
the list of cells are those of the grid after the same calls, and the same texts are refused. The
cells that a removal takes away do not come back with the rows and columns, and rows and columns
that are added and removed again leave nothing behind. -/
theorem refines_grid (rows columns : Nat) (calls : List Call) :
    let s := calls.foldl after (empty rows columns)
    let g := calls.foldl Grid.after (.new rows columns)
    (s.bounds.rows = g.rows ∧ s.bounds.columns = g.columns ∧ (∀ a, s.formula a = g.text a) ∧
        s.cells = g.texts.toList ∧
        ∀ a text e, s.set a text = .error e ↔ g.set a text = none ∧ e = .outOfBounds a s.bounds) ∧
      (∀ r c r' c' a, (s.bounds.shrink r c).contains a = false →
        ((s.shrink r c).2.extend r' c').2.formula a = "") ∧
      ∀ r c, s.bounds.rows + r ≤ greatestDimension → s.bounds.columns + c ≤ greatestDimension →
        s.Alike ((s.extend r c).2.shrink r c).2 := by
  intro s g
  have reachable : s.Reachable := (Reachable.empty rows columns).foldl_after calls
  have shows : s.Shows g := (Shows.empty rows columns).foldl_after calls
  refine ⟨⟨shows.rows, shows.columns, shows.formula, shows.cells, fun _ _ _ => ?_⟩,
    fun r c r' c' a outside => ?_, fun r c => reachable.alike_shrink_extend⟩
  · exact shows.set_eq_error_iff
  · rw [formula_extend, formula_shrink, outside]
    rfl

/-- A formula that reads a row and a column which come and go is not changed by that. -/
theorem alike_after_regrowth :
    let s := (empty 2 2).after (.set ⟨0, 0⟩ "=C3")
    s.Alike ((s.extend 1 1).2.shrink 1 1).2 := by
  intro s
  have bounds : s.bounds = .clamp 2 2 := bounds_after_set ..
  obtain ⟨-, -, alike⟩ := refines_grid 2 2 [.set ⟨0, 0⟩ "=C3"]
  refine alike 1 1 ?_ ?_
  · change s.bounds.rows + 1 ≤ greatestDimension
    rw [bounds]
    decide
  · change s.bounds.columns + 1 ≤ greatestDimension
    rw [bounds]
    decide

end Sheet

end Spreadsheet
