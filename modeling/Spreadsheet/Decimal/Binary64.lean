/-!
# The parts of a floating-point number

A finite double-precision number is `± mantissa · 2 ^ exponent` with a mantissa below `2 ^ 53` and
an exponent from `-1074` upwards. `parts` takes a number apart, and `nearest` rounds a positive
fraction to the nearest number, a half to the even mantissa.
-/

namespace Spreadsheet.Decimal

/-- What a double-precision number is made of. -/
inductive Parts where
  | nan
  | infinite (negative : Bool)
  | finite (negative : Bool) (mantissa : Nat) (exponent : Int)
  deriving DecidableEq, Repr

/-- The least exponent of a mantissa's unit. -/
def leastExponent : Int := -1074

/-- One past the bits of the largest finite number without its sign: the bits of infinity. -/
def infinityBits : Nat := 0x7FF * Nat.pow 2 52

/-- The parts of a number. -/
def parts (x : Float) : Parts :=
  let bits := x.toBits.toNat
  let negative := bits / Nat.pow 2 63 == 1
  let field := bits / Nat.pow 2 52 % Nat.pow 2 11
  let fraction := bits % Nat.pow 2 52
  if field = 0x7FF then
    if fraction = 0 then .infinite negative else .nan
  else if field = 0 then .finite negative fraction leastExponent
  else .finite negative (Nat.pow 2 52 + fraction) (leastExponent + (field - 1 : Nat))

/-- The quotient rounded to the nearest natural number, a half to the even one. -/
def roundDiv (num den : Nat) : Nat :=
  let q := num / den
  let twice := 2 * (num % den)
  if den < twice || (twice == den && q % 2 == 1) then q + 1 else q

/-- The fraction `num / den` divided by `base ^ e`, as a fraction. -/
def scale (base num den : Nat) (e : Int) : Nat × Nat :=
  if 0 ≤ e then (num, den * base.pow e.toNat) else (num * base.pow (-e).toNat, den)

/-- The exponent of the unit in which a positive fraction has a mantissa of 53 bits, or the least
exponent if that is larger. -/
def unitExponent (num den : Nat) : Int :=
  let e := max ((num.log2 : Int) - den.log2 - 53) leastExponent
  let (n, d) := scale 2 num den e
  if Nat.pow 2 53 ≤ n / d then e + 1 else e

/-- The bits, without the sign, of the double-precision number nearest to `num / den`. A mantissa
that rounds up to the next power of two carries into the exponent's bits, as it should. -/
def nearestBits (num den : Nat) : Nat :=
  if num = 0 then 0
  else
    let e := unitExponent num den
    let (n, d) := scale 2 num den e
    min ((e - leastExponent).toNat * Nat.pow 2 52 + roundDiv n d) infinityBits

/-- The double-precision number nearest to `num / den`, with the given sign. -/
def nearest (negative : Bool) (num den : Nat) : Float :=
  Float.ofBits (UInt64.ofNat ((if negative then Nat.pow 2 63 else 0) + nearestBits num den))

end Spreadsheet.Decimal
