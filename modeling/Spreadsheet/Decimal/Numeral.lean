import Spreadsheet.Decimal.Binary64
import Spreadsheet.Text.Digits

/-!
# Numerals

A numeral is a sign, digits with at most one point among them, and an exponent of ten; or a sign
and the word for infinity or for an undefined result. It is read from a whole text and denotes the
nearest double-precision number.
-/

namespace Spreadsheet.Decimal

/-- A written number: `whole.fraction · 10 ^ exponent`. -/
structure Numeral where
  whole : List Char
  fraction : List Char
  exponent : Int

/-- The size of an exponent from which on its digits are read but no longer counted. -/
def exponentReach : Nat := 65536

/-- The size of an exponent with some digits. -/
def exponentSize (cs : List Char) : Nat :=
  cs.foldl (fun n c => if n < exponentReach then 10 * n + Text.digitValue c else n) 0

/-- An exponent of ten, the digits without their mark: an optional sign and at least one digit. -/
def exponent? : List Char → Option Int
  | '-' :: cs => if !cs.isEmpty && cs.all Char.isDigit then some (-exponentSize cs) else none
  | '+' :: cs => if !cs.isEmpty && cs.all Char.isDigit then some (exponentSize cs) else none
  | cs => if !cs.isEmpty && cs.all Char.isDigit then some (exponentSize cs) else none

namespace Numeral

/-- The digits after a point, if there is one, and what stands behind them. -/
def splitFraction : List Char → List Char × List Char
  | '.' :: cs => (cs.takeWhile Char.isDigit, cs.dropWhile Char.isDigit)
  | cs => ([], cs)

/-- The numeral that a text without sign is: digits before or after the point, and an optional
exponent. -/
def ofChars? (cs : List Char) : Option Numeral :=
  let whole := cs.takeWhile Char.isDigit
  let (fraction, rest) := splitFraction (cs.dropWhile Char.isDigit)
  if whole.isEmpty && fraction.isEmpty then none
  else match rest with
    | [] => some ⟨whole, fraction, 0⟩
    | c :: rest =>
      if c = 'e' ∨ c = 'E' then (exponent? rest).map (⟨whole, fraction, ·⟩) else none

/-- The number that a numeral denotes. A value of `10 ^ 309` or more is infinite and one below
`10 ^ -324` is zero, so no large power is computed for them. -/
def toFloat (negative : Bool) (n : Numeral) : Float :=
  let digits := (n.whole ++ n.fraction).dropWhile (· == '0')
  let shift := n.exponent - n.fraction.length
  let size := shift + digits.length
  if digits.isEmpty || size < -324 then nearest negative 0 1
  else if 310 < size then nearest negative (Nat.pow 2 1024) 1
  else
    let (num, den) := scale 10 (Text.natOfDigits digits) 1 (-shift)
    nearest negative num den

end Numeral

/-- The number that a text without sign denotes: a numeral, or in any case of letters one of the
words `inf`, `infinity` and `nan`. -/
def unsigned? (negative : Bool) (cs : List Char) : Option Float :=
  let word := String.ofList (cs.map Char.toLower)
  if word = "inf" ∨ word = "infinity" then some (nearest negative (Nat.pow 2 1024) 1)
  else if word = "nan" then some (Float.ofBits 0x7FF8000000000000)
  else (Numeral.ofChars? cs).map (Numeral.toFloat negative)

/-- The number that a text denotes, with at most one sign in front. -/
def float? : List Char → Option Float
  | '-' :: cs => unsigned? true cs
  | '+' :: cs => unsigned? false cs
  | cs => unsigned? false cs

end Spreadsheet.Decimal
