import Spreadsheet.Sheet.Basic

/-!
# Tables

A sheet is exported as a Markdown table: a header of column letters, a rule, and a line for each row
with its number and the texts that a grid shows. A bar inside a text is escaped and line breaks are
taken out, so that a text cannot end its field or its line. The values are queried row by row.
-/

namespace Spreadsheet.Sheet

/-- The way a character of a text stands in a field. -/
def fieldChar (c : Char) : List Char :=
  if c = '|' then ['\\', '|']
  else if c = '\n' then [' ']
  else if c = '\r' then []
  else [c]

/-- A field and the bar behind it. -/
def field (text : List Char) : List Char :=
  ' ' :: (text ++ [' ', '|'])

/-- The line of column letters. -/
def header (b : Bounds) : List Char :=
  "|   |".toList ++ (List.range b.columns).flatMap fun col => field (Column.letters (col + 1))

/-- The line between the header and the rows. -/
def rule (b : Bounds) : List Char :=
  "|---|".toList ++ (List.range b.columns).flatMap fun _ => "---|".toList

/-- The line of a row. -/
def rowLine (s : Sheet) (row : Nat) : List Char × Sheet :=
  let (texts, s) := queryAll display s (s.rowAddresses row)
  ('|' :: field (Nat.toDigits 10 (row + 1)) ++
    texts.flatMap fun text => field (text.toList.flatMap fieldChar), s)

/-- The lines of the table. -/
def tableLines (s : Sheet) : List (List Char) × Sheet :=
  let (rows, s') := queryAll rowLine s (List.range s.bounds.rows)
  (header s.bounds :: rule s.bounds :: rows, s')

/-- The table of a sheet, and the sheet that remembers what was computed for it. -/
def table (s : Sheet) : String × Sheet :=
  let (lines, s) := s.tableLines
  (String.ofList (lines.flatMap (· ++ ['\n'])), s)

end Spreadsheet.Sheet
