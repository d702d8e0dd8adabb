import Spreadsheet.Json.Layout
import Spreadsheet.Text.Digits

/-!
# Saved sheets

What is kept of a sheet between two runs: the numbers of rows and columns, and the text of each cell
that was set. A saved sheet is written as a JSON object; a cell is an object too. It is read from
such an object, in which unknown keys are passed over and known ones may come once, or from an array
of its parts in their order.
-/

namespace Spreadsheet

/-- A saved cell: its row and column, counted from zero, and its text. -/
structure SavedCell where
  row : Nat
  column : Nat
  formula : String
  deriving DecidableEq

/-- A saved sheet. The numbers of rows and columns are those that were asked for: they are not
clamped, and the cells may lie anywhere. -/
structure SavedSheet where
  rows : Nat
  columns : Nat
  cells : List SavedCell
  deriving DecidableEq

namespace JsonTree

/-! ## Parts of a tree -/

/-- The number that is written with these digits. -/
def ofNat (n : Nat) : JsonTree :=
  .number (Nat.toDigits 10 n)

/-- A count: a number without sign, fraction and exponent that fits a machine word. -/
def count? : JsonTree → Option Nat
  | .number text => Text.wordOfDigits? text
  | _ => none

/-- The text of a string. -/
def text? : JsonTree → Option String
  | .string text => text
  | _ => none

/-- The values of a key, in their order. -/
def valuesOf (members : List (Option String × JsonTree)) (key : String) : List JsonTree :=
  members.filterMap fun (k, value) => if k = some key then some value else none

/-- What the only value of a key stands for. -/
def required? {α : Type} (members : List (Option String × JsonTree)) (key : String)
    (decode : JsonTree → Option α) : Option α :=
  match valuesOf members key with
  | [value] => decode value
  | _ => none

/-- What the only value of a key stands for, or `absent` if the key does not come. -/
def optional? {α : Type} (members : List (Option String × JsonTree)) (key : String)
    (decode : JsonTree → Option α) (absent : α) : Option α :=
  match valuesOf members key with
  | [] => some absent
  | [value] => decode value
  | _ => none

/-- Whether every key of an object has a text. -/
def keysHaveText (members : List (Option String × JsonTree)) : Bool :=
  members.all fun (key, _) => key.isSome

end JsonTree

open JsonTree

namespace SavedCell

/-- The object of a cell. -/
def toTree (c : SavedCell) : JsonTree :=
  .object [(some "row", ofNat c.row), (some "column", ofNat c.column),
    (some "formula", .string (some c.formula))]

/-- The cell that a tree stands for. -/
def ofTree? : JsonTree → Option SavedCell
  | .array [row, column, formula] =>
    return ⟨← count? row, ← count? column, ← text? formula⟩
  | .object members =>
    if keysHaveText members then
      return ⟨← required? members "row" count?, ← required? members "column" count?,
        ← required? members "formula" text?⟩
    else none
  | _ => none

end SavedCell

namespace SavedSheet

/-- The name of the only way of saving: the cells that were set, one by one. -/
def sparse : String := "SPARSE"

/-- Accepts the name of the way of saving, alone or as the key of an empty value. -/
def checkKind? : JsonTree → Option Unit
  | .string name => if name = some sparse then some () else none
  | .object [(name, .null)] => if name = some sparse then some () else none
  | _ => none

/-- The cells that a tree stands for. -/
def cells? : JsonTree → Option (List SavedCell)
  | .array items => items.mapM SavedCell.ofTree?
  | _ => none

/-- The object of a saved sheet. -/
def toTree (s : SavedSheet) : JsonTree :=
  .object [(some "type", .string (some sparse)), (some "rowCount", ofNat s.rows),
    (some "columnCount", ofNat s.columns), (some "cells", .array (s.cells.map SavedCell.toTree))]

/-- The saved sheet that a tree stands for. -/
def ofTree? : JsonTree → Option SavedSheet
  | .array [kind, rows, columns] => do
    checkKind? kind
    return ⟨← count? rows, ← count? columns, []⟩
  | .array [kind, rows, columns, cells] => do
    checkKind? kind
    return ⟨← count? rows, ← count? columns, ← cells? cells⟩
  | .object members =>
    if keysHaveText members then do
      optional? members "type" checkKind? ()
      return ⟨← required? members "rowCount" count?, ← required? members "columnCount" count?,
        ← optional? members "cells" cells? []⟩
    else none
  | _ => none

/-- The text of a saved sheet. -/
def toText (s : SavedSheet) : String :=
  String.ofList (layout 0 s.toTree)

/-- The saved sheet that a text stands for. -/
def ofText? (text : String) : Option SavedSheet :=
  (JsonTree.ofText? text).bind ofTree?

end SavedSheet

end Spreadsheet
