import Spreadsheet.Text.Combining
import Spreadsheet.Text.Printable

/-!
# Quoted texts

A text between double quotes, as error messages show it. A quote and a backslash are escaped, four
control characters have a letter, and every other character that is combining or not printable is
written by its code point in hexadecimal.
-/

namespace Spreadsheet.Text

/-- The way `c` is written between double quotes. -/
def quotedChar (c : Char) : String :=
  if c = '"' then "\\\""
  else if c = '\\' then "\\\\"
  else if c = '\n' then "\\n"
  else if c = '\r' then "\\r"
  else if c = '\t' then "\\t"
  else if c = '\x00' then "\\0"
  else if isCombining c || !isPrintable c then
    "\\u\x7b" ++ String.ofList (Nat.toDigits 16 c.toNat) ++ "\x7d"
  else c.toString

/-- The text between double quotes. -/
def quoted (s : String) : String :=
  "\"" ++ String.join (s.toList.map quotedChar) ++ "\""

end Spreadsheet.Text
