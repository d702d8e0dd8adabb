import Spreadsheet.Address.Basic
import Spreadsheet.Address.Column
import Spreadsheet.Text.Blank

/-!
# Names of addresses

An address is named by its column letters and its row number, counted from one: row 2 and column 0
is `A3`. Row numbers are counted in a word, as sums are where nothing checks them. A name is read
with blanks around it, letters of either case and zeros before the row number, as long as both
numbers fit a word.
-/

namespace Spreadsheet.Address

/-- The number of the row, counted from one in a word. Behind the last row that a word can hold the
count starts again: that row has the number zero. -/
def rowNumber (a : Address) : Nat :=
  (a.row + 1) % Text.wordLimit

theorem rowNumber_of_lt {a : Address} (h : a.row + 1 < Text.wordLimit) :
    a.rowNumber = a.row + 1 :=
  Nat.mod_eq_of_lt h

example : rowNumber ⟨2 ^ 64 - 1, 0⟩ = 0 := rfl

/-- The name of an address. -/
def name (a : Address) : String :=
  String.ofList (Column.letters (a.col + 1)) ++ toString a.rowNumber

/-- The address that a run of letters and a run of digits name, if there is one. -/
def ofParts? (letters digits : List Char) : Option Address :=
  match Column.number? (letters.map Char.toUpper), Text.wordOfDigits? digits with
  | some (col + 1), some (row + 1) => some ⟨row, col⟩
  | _, _ => none

/-- The address that a text names, if there is one. -/
def ofName? (s : String) : Option Address :=
  let cs := Text.trim s.toList
  ofParts? (cs.takeWhile Char.isAlpha) (cs.dropWhile Char.isAlpha)

end Spreadsheet.Address
