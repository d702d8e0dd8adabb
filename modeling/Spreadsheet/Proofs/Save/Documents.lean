import Spreadsheet.Proofs.Json.Reading
import Spreadsheet.Save.Basic

/-!
# Saved sheets are read back

The text that a saved sheet is written as says what the sheet is: its JSON tree is the tree of the
sheet, and the sheet is read back from it, if its numbers fit machine words, as those of every sheet
that was saved do (`SavedSheet.ofText?_toText`). The text is laid out line by line
(`SavedSheet.toText_eq_lines`).
-/

namespace Spreadsheet

namespace JsonTree

theorem legal_ofNat (n : Nat) : (ofNat n).Legal := by
  rw [ofNat, Legal]
  exact JsonNumber.isLiteral_toDigits n

theorem count?_ofNat (n : Nat) : count? (ofNat n) = if n < Text.wordLimit then some n else none :=
  Text.wordOfDigits?_toDigits n

end JsonTree

open JsonTree

namespace SavedCell

/-- The numbers of the cell fit machine words. -/
structure Fits (c : SavedCell) : Prop where
  row : c.row < Text.wordLimit
  column : c.column < Text.wordLimit

theorem fits_iff {c : SavedCell} :
    c.Fits ↔ c.row < Text.wordLimit ∧ c.column < Text.wordLimit :=
  ⟨fun h => ⟨h.row, h.column⟩, fun h => ⟨h.1, h.2⟩⟩

instance (c : SavedCell) : Decidable c.Fits := decidable_of_iff' _ fits_iff

theorem legal_toTree (c : SavedCell) : c.toTree.Legal := by
  simp [toTree, Legal, LegalMembers, legal_ofNat]

/-- **A cell** is read back from its object. -/
theorem ofTree?_toTree (c : SavedCell) : ofTree? c.toTree = if c.Fits then some c else none := by
  have keys : keysHaveText [(some "row", ofNat c.row), (some "column", ofNat c.column),
      (some "formula", .string (some c.formula))] = true := rfl
  rw [toTree, ofTree?, if_pos keys]
  by_cases row : c.row < Text.wordLimit
  · by_cases column : c.column < Text.wordLimit
    · simp [required?, valuesOf, count?_ofNat, text?, fits_iff, row, column]
    · simp [required?, valuesOf, count?_ofNat, fits_iff, row, column]
  · simp [required?, valuesOf, count?_ofNat, fits_iff, row]

end SavedCell

namespace SavedSheet

variable {s : SavedSheet}

/-- The numbers of the sheet and of its cells fit machine words. -/
structure Fits (s : SavedSheet) : Prop where
  rows : s.rows < Text.wordLimit
  columns : s.columns < Text.wordLimit
  cells : ∀ c ∈ s.cells, c.Fits

theorem fits_iff : s.Fits ↔
    s.rows < Text.wordLimit ∧ s.columns < Text.wordLimit ∧ ∀ c ∈ s.cells, c.Fits :=
  ⟨fun h => ⟨h.rows, h.columns, h.cells⟩, fun h => ⟨h.1, h.2.1, h.2.2⟩⟩

instance (s : SavedSheet) : Decidable s.Fits := decidable_of_iff' _ fits_iff

theorem legal_cells (cells : List SavedCell) : LegalItems (cells.map SavedCell.toTree) := by
  induction cells with
  | nil => simp [LegalItems]
  | cons c cells ih => simp [LegalItems, c.legal_toTree, ih]

theorem legal_toTree (s : SavedSheet) : s.toTree.Legal := by
  simp [toTree, Legal, LegalMembers, legal_ofNat, legal_cells]

/-- The cells are read back if all of them are. -/
theorem cells?_toTree (cells : List SavedCell) : cells? (.array (cells.map SavedCell.toTree)) =
    if ∀ c ∈ cells, c.Fits then some cells else none := by
  rw [cells?]
  induction cells with
  | nil => simp
  | cons c cells ih =>
    rw [List.map_cons, List.mapM_cons, ih, c.ofTree?_toTree]
    by_cases first : c.Fits
    · by_cases rest : ∀ c ∈ cells, c.Fits
      · rw [if_pos first, if_pos rest, if_pos (List.forall_mem_cons.2 ⟨first, rest⟩)]
        rfl
      · rw [if_pos first, if_neg rest, if_neg fun all => rest (List.forall_mem_cons.1 all).2]
        rfl
    · rw [if_neg first, if_neg fun all => first (List.forall_mem_cons.1 all).1]
      rfl

theorem ofTree?_toTree (s : SavedSheet) : ofTree? s.toTree = if s.Fits then some s else none := by
  have keys : keysHaveText [(some "type", .string (some sparse)), (some "rowCount", ofNat s.rows),
      (some "columnCount", ofNat s.columns),
      (some "cells", .array (s.cells.map SavedCell.toTree))] = true := rfl
  rw [toTree, ofTree?, if_pos keys]
  simp only [fits_iff]
  by_cases rows : s.rows < Text.wordLimit
  · by_cases columns : s.columns < Text.wordLimit
    · by_cases cells : ∀ c ∈ s.cells, c.Fits
      · rw [if_pos ⟨rows, columns, cells⟩]
        simp [required?, optional?, valuesOf, checkKind?, count?_ofNat, cells?_toTree, rows,
          columns, if_pos cells]
      · rw [if_neg fun fits => cells fits.2.2]
        simp [required?, optional?, valuesOf, checkKind?, count?_ofNat, cells?_toTree, rows,
          columns, if_neg cells]
    · simp [required?, optional?, valuesOf, checkKind?, count?_ofNat, rows, columns]
  · simp [required?, optional?, valuesOf, checkKind?, count?_ofNat, rows]

/-- The tree of the text is the tree of the sheet. -/
theorem tree_toText (s : SavedSheet) : JsonTree.ofText? s.toText = some s.toTree :=
  ofText?_layout s.legal_toTree 0

/-- A saved sheet is read back. -/
theorem Fits.ofText?_eq (h : s.Fits) : ofText? s.toText = some s := by
  rw [ofText?, tree_toText, Option.bind_some, ofTree?_toTree, if_pos h]

/-- **The format loses nothing.** The text of a saved sheet is a JSON text of the tree of the sheet,
and the sheet that is read back from it is the same one, whatever its texts are and wherever its
cells lie; only numbers that do not fit a machine word are refused. -/
theorem ofText?_toText (s : SavedSheet) : JsonTree.ofText? s.toText = some s.toTree ∧
    ofText? s.toText = if s.Fits then some s else none := by
  refine ⟨s.tree_toText, ?_⟩
  rw [ofText?, tree_toText, Option.bind_some, ofTree?_toTree]

end SavedSheet

/-! ## The lines of the text -/

/-- The characters of some lines, each with a line break in front of it. -/
def brokenLines (lines : List String) : List Char :=
  lines.flatMap fun line => '\n' :: line.toList

theorem brokenLines_append (lines more : List String) :
    brokenLines (lines ++ more) = brokenLines lines ++ brokenLines more :=
  List.flatMap_append

theorem toList_intercalate_lines (first : String) (lines : List String) :
    ("\n".intercalate (first :: lines)).toList = first.toList ++ brokenLines lines := by
  rw [String.toList_intercalate]
  induction lines generalizing first with
  | nil => simp [brokenLines]
  | cons line lines ih =>
    rw [List.map_cons, List.map_cons, List.intercalate_cons_cons, ← List.map_cons, ih]
    simp [brokenLines]

namespace SavedCell

/-- The lines of a cell. The last of them ends with a comma if another cell follows. -/
def lines (c : SavedCell) (comma : String) : List String :=
  ["    \x7b",
    "      \"row\": " ++ toString c.row ++ ",",
    "      \"column\": " ++ toString c.column ++ ",",
    "      \"formula\": " ++ String.ofList (JsonString.write c.formula),
    "    \x7d" ++ comma]

/-- The lines of some cells, one after the other. -/
def linesOf : List SavedCell → List String
  | [] => []
  | [c] => c.lines ""
  | c :: d :: cells => c.lines "," ++ linesOf (d :: cells)

theorem layout_toTree (c : SavedCell) (comma : String) :
    newLine 2 ++ layout 2 c.toTree ++ comma.toList = brokenLines (c.lines comma) := by
  simp [toTree, layout, layoutMembers, newLine, writeText, ofNat, brokenLines, lines,
    JsonString.write, JsonString.escape, List.replicate]

theorem layoutItems_toTree : ∀ cells : List SavedCell,
    layoutItems 2 (cells.map toTree) = brokenLines (linesOf cells)
  | [] => rfl
  | [c] => by
    rw [linesOf, ← layout_toTree]
    simp [layoutItems]
  | c :: d :: cells => by
    rw [linesOf, brokenLines_append, ← layout_toTree, ← layoutItems_toTree (d :: cells)]
    simp [layoutItems]

/-- The lines of the member that holds the cells. -/
def memberLines : List SavedCell → List String
  | [] => ["  \"cells\": []"]
  | cells => "  \"cells\": [" :: linesOf cells ++ ["  ]"]

theorem layout_array_toTree (cells : List SavedCell) :
    newLine 1 ++ JsonString.write "cells" ++ [':', ' '] ++ layout 1 (.array (cells.map toTree)) =
      brokenLines (memberLines cells) := by
  cases cells with
  | nil => simp [layout, newLine, memberLines, brokenLines, JsonString.write, JsonString.escape]
  | cons c cells =>
    have items := layoutItems_toTree (c :: cells)
    rw [List.map_cons] at items
    rw [List.map_cons, layout, items, memberLines, List.cons_append]
    · simp [newLine, brokenLines, JsonString.write, JsonString.escape]
    · simp
    · simp

end SavedCell

namespace SavedSheet

/-- The lines of the text of a saved sheet. -/
def lines (s : SavedSheet) : List String :=
  "\x7b" ::
    "  \"type\": \"SPARSE\"," ::
    ("  \"rowCount\": " ++ toString s.rows ++ ",") ::
    ("  \"columnCount\": " ++ toString s.columns ++ ",") ::
    (SavedCell.memberLines s.cells ++ ["\x7d"])

/-- **The layout**: each member of the sheet and of a cell has a line of its own, and so have the
brackets around them, unless there are no cells. -/
theorem toText_eq_lines (s : SavedSheet) : s.toText = "\n".intercalate s.lines := by
  have cells := SavedCell.layout_array_toTree s.cells
  apply String.toList_injective
  rw [toText, String.toList_ofList, lines, toList_intercalate_lines, toTree]
  generalize JsonTree.array (s.cells.map SavedCell.toTree) = array at cells ⊢
  simp only [brokenLines, List.flatMap_cons, List.flatMap_append] at cells ⊢
  rw [← cells]
  simp [layout, layoutMembers, newLine, writeText, ofNat, sparse, JsonString.write,
    JsonString.escape]

/-- Each member has a line of its own, and a quotation mark in a text is escaped. -/
example : toText ⟨8, 3, [⟨1, 0, "=\"a\""⟩]⟩ = String.intercalate "\n"
    ["\x7b",
      "  \"type\": \"SPARSE\",",
      "  \"rowCount\": 8,",
      "  \"columnCount\": 3,",
      "  \"cells\": [",
      "    \x7b",
      "      \"row\": 1,",
      "      \"column\": 0,",
      "      \"formula\": \"=\\\"a\\\"\"",
      "    \x7d",
      "  ]",
      "\x7d"] := by cbv

end SavedSheet

end Spreadsheet
