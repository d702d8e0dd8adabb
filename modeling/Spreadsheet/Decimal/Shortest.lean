import Spreadsheet.Decimal.Binary64

/-!
# Shortest digits

The decimal with the fewest digits that rounds to a given double-precision number. On each grid of
multiples of a power of ten, from coarse to fine, the two neighbours of the number are tried; the
first grid with a neighbour that rounds to the number wins, of two such neighbours the nearer one,
and of two equally near the larger.
-/

namespace Spreadsheet.Decimal

/-- The decimal `digits · 10 ^ exponent`. -/
structure Digits where
  digits : Nat
  exponent : Int
  deriving DecidableEq, Repr

/-- The two ends of the interval that rounds to `mantissa · 2 ^ exponent`, in units of
`2 ^ (exponent - 2)`. Below a power of two the numbers are twice as dense. -/
def roundingEnds (mantissa : Nat) (exponent : Int) : Nat × Nat :=
  let dense := mantissa == Nat.pow 2 52 && leastExponent < exponent
  (4 * mantissa - (if dense then 1 else 2), 4 * mantissa + 2)

/-- Whether `c · 10 ^ p` rounds to `mantissa · 2 ^ exponent`. The ends of the interval round to an
even mantissa. -/
def roundsTo (mantissa : Nat) (exponent : Int) (c : Nat) (p : Int) : Bool :=
  let (low, high) := roundingEnds mantissa exponent
  let (c, d) := scale 10 c 1 (-p)
  let (c, d) := scale 2 c d (exponent - 2)
  if mantissa % 2 == 0 then low * d ≤ c && c ≤ high * d else low * d < c && c < high * d

/-- The nearest multiple of `10 ^ p` that rounds to `mantissa · 2 ^ exponent`, if there is one. -/
def onGrid? (mantissa : Nat) (exponent : Int) (p : Int) : Option Nat :=
  let (n, d) := scale 2 mantissa 1 (-exponent)
  let (n, d) := scale 10 n d p
  let below := n / d
  match roundsTo mantissa exponent below p, roundsTo mantissa exponent (below + 1) p with
  | true, true => some (if 2 * (n % d) < d then below else below + 1)
  | true, false => some below
  | false, true => some (below + 1)
  | false, false => none

/-- The first grid from `10 ^ p` downwards with a hit, at most `fuel` grids down. -/
def firstGrid (mantissa : Nat) (exponent : Int) : Nat → Int → Digits
  | 0, p => ⟨0, p⟩
  | fuel + 1, p =>
    match onGrid? mantissa exponent p with
    | some c => ⟨c, p⟩
    | none => firstGrid mantissa exponent fuel (p - 1)

/-- A power of ten above `mantissa · 2 ^ exponent`: from 0.30 to 0.31 decimal digits for a binary
one. -/
def coarsest (mantissa : Nat) (exponent : Int) : Int :=
  let size := exponent + mantissa.log2 + 1
  if 0 ≤ size then size * 31 / 100 + 1 else size * 30 / 100 + 1

/-- The decimal with the fewest digits that rounds to `mantissa · 2 ^ exponent`. The search starts
at most a dozen grids too coarse, and on the grid of 17 digits every number is hit. -/
def shortest (mantissa : Nat) (exponent : Int) : Digits :=
  firstGrid mantissa exponent 40 (coarsest mantissa exponent)

end Spreadsheet.Decimal
