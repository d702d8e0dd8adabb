import Spreadsheet.Address.Name
import Spreadsheet.Sheet.Basic
import Spreadsheet.Text.Blank
import Spreadsheet.Text.Digits
import Spreadsheet.Text.Split

/-!
# Edits

The changes that a command can make to a sheet, and their notation in its arguments: an assignment
is a cell's name, an equals sign and a text; a pair is two counts with a comma between them.
-/

namespace Spreadsheet

/-- A change to a sheet. -/
inductive Edit where
  | set (a : Address) (text : String)
  | extend (rows columns : Nat)
  | shrink (rows columns : Nat)
  deriving DecidableEq

namespace Edit

/-- Makes a change; the addresses are those whose values are out of date after it. -/
def apply (s : Sheet) : Edit → Except SheetError (AddressSet × Sheet)
  | .set a text => s.set a text
  | .extend rows columns => .ok (s.extend rows columns)
  | .shrink rows columns => .ok (s.shrink rows columns)

/-- A count: digits that may have a plus sign in front and blanks around them. -/
def count? (cs : List Char) : Option Nat :=
  match Text.trim cs with
  | '+' :: digits => Text.wordOfDigits? digits
  | digits => Text.wordOfDigits? digits

/-- Two counts with a comma between them. -/
def pair? (text : String) : Option (Nat × Nat) :=
  match Text.cut? ',' text.toList with
  | some (first, second) =>
    match count? first, count? second with
    | some m, some n => some (m, n)
    | _, _ => none
  | none => none

/-- The two sides of the first equals sign. -/
def sides? (text : String) : Option (String × String) :=
  (Text.cut? '=' text.toList).map fun (name, text) => (String.ofList name, String.ofList text)

end Edit

end Spreadsheet
