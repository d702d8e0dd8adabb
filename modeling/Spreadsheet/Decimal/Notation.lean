import Spreadsheet.Decimal.Shortest

/-!
# Written numbers

Three ways to write a double-precision number: `plain` positionally with the shortest digits,
`literal` like it but marked as fractional and with an exponent for large and small sizes, and
`fixed` with a given number of decimal places, a half going to the even last digit.
-/

namespace Spreadsheet.Decimal

/-- A minus sign for a negative number. -/
def sign (negative : Bool) : String :=
  if negative then "-" else ""

/-- `n` zeros. -/
def zeros (n : Nat) : String :=
  String.ofList (List.replicate n '0')

/-- The digits of `d` with the point in its place, and `whole` behind a whole number. -/
def positional (whole : String) (d : Digits) : String :=
  let cs := Nat.toDigits 10 d.digits
  let point := cs.length + d.exponent
  if 0 ≤ d.exponent then String.ofList cs ++ zeros d.exponent.toNat ++ whole
  else if 0 < point then
    String.ofList (cs.take point.toNat) ++ "." ++ String.ofList (cs.drop point.toNat)
  else "0." ++ zeros (-point).toNat ++ String.ofList cs

/-- The digits of `d` with the point behind the first, and the power of ten. -/
def scientific (d : Digits) : String :=
  let cs := Nat.toDigits 10 d.digits
  let power := cs.length + d.exponent - 1
  let tail := if cs.length ≤ 1 then "" else "." ++ String.ofList (cs.drop 1)
  String.ofList (cs.take 1) ++ tail ++ "e" ++ toString power

/-- The shortest digits in positional notation; a whole number has no point. -/
def plain (x : Float) : String :=
  match parts x with
  | .nan => "NaN"
  | .infinite negative => sign negative ++ "inf"
  | .finite negative 0 _ => sign negative ++ "0"
  | .finite negative m e => sign negative ++ positional "" (shortest m e)

/-- The shortest digits, with an exponent from `10 ^ 16` on and below `10 ^ -4`; otherwise
positionally, where a whole number ends in `.0`. -/
def literal (x : Float) : String :=
  match parts x with
  | .nan => "NaN"
  | .infinite negative => sign negative ++ "inf"
  | .finite negative 0 _ => sign negative ++ "0.0"
  | .finite negative m e =>
    let d := shortest m e
    let point := (Nat.toDigits 10 d.digits).length + d.exponent
    sign negative ++ (if 16 < point ∨ point < -3 then scientific d else positional ".0" d)

/-- The magnitude `mantissa · 2 ^ exponent` as a whole number of units of `10 ^ -places`, a half
going to the even number of units. -/
def unitsOf (places mantissa : Nat) (exponent : Int) : Nat :=
  let (n, d) := scale 2 (mantissa * Nat.pow 10 places) 1 (-exponent)
  roundDiv n d

/-- `n` units of `10 ^ -places`, written with all the places. -/
def withPlaces (places n : Nat) : List Char :=
  let fraction := Nat.toDigits 10 (n % Nat.pow 10 places)
  Nat.toDigits 10 (n / Nat.pow 10 places) ++ '.' ::
    (List.replicate (places - fraction.length) '0' ++ fraction)

/-- The finite number `± mantissa · 2 ^ exponent` rounded to the given number of places. -/
def fixed (places : Nat) (negative : Bool) (mantissa : Nat) (exponent : Int) : List Char :=
  (if negative then ['-'] else []) ++ withPlaces places (unitsOf places mantissa exponent)

end Spreadsheet.Decimal
