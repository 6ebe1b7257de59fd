/-
# The shortest decimal of a binary64 number

The decimals that round to a finite number `m · 2 ^ e` fill an interval around it,
ends included when `m` is even.  The shortest decimal is the one with the fewest
digits in that interval, and the nearest of those, a tie to the even digit.  For 1, 2, … 17
digits only the two neighbours of the number on the grid of that many digits can be in the
interval.

The number is shown with these digits: positional with at least one digit after the
point while the exponent of the leading digit is in `-4 … 15`, and otherwise scientific
with an `e` and an exponent of at least two digits.

| number | text | as a decimal |
| --- | --- | --- |
| 25 | `25.0` | `250 · 10 ^ -1` |
| 0.1 | `0.1` | `1 · 10 ^ -1` |
| 10 ^ 22 | `1e+22` | `1 · 10 ^ 22` |
| 0.00001 | `1e-05` | `1 · 10 ^ -5` |
-/

import Verdict.Binary64.Basic
import Verdict.Decimal.Scientific

namespace Verdict
namespace Binary64

/-- Twice the distance to the interval's upper end and its lower end, in quarters of a
unit `2 ^ e`: below a power of two the neighbours stand closer. -/
def reach (x : Binary64) : Nat × Nat :=
  (2, if x.significand == 2 ^ 52 && 2 ^ 53 ≤ x.magnitude.val then 1 else 2)

/-- Whether `c · 10 ^ p` rounds to the positive number `x`. -/
def rounds (x : Binary64) (c : Nat) (p : Int) : Bool :=
  let (up, down) := x.reach
  let unit := 2 ^ x.scale.toNat
  let tested := 4 * (c * 10 ^ p.toNat * x.denominator)
  let ten := 10 ^ (-p).toNat
  let high := (4 * x.significand + up) * unit * ten
  let low := (4 * x.significand - down) * unit * ten
  if x.significand % 2 == 0 then low ≤ tested && tested ≤ high
  else low < tested && tested < high

/-- The exponent of the leading digit of the positive fraction `n / d`. -/
def leadingExponent (n d : Nat) : Int :=
  let guess : Int := (digitCount n : Int) - digitCount d
  if d * 10 ^ guess.toNat ≤ n * 10 ^ (-guess).toNat then guess else guess - 1

/-- The better of the two neighbours of `x` on the grid `10 ^ p`, if one rounds to it. -/
def neighbour? (x : Binary64) (p : Int) : Option Nat :=
  let n := x.numerator * 10 ^ (-p).toNat
  let d := x.denominator * 10 ^ p.toNat
  let below := n / d
  match rounds x below p, rounds x (below + 1) p with
  | true, true => some (roundDiv n d)
  | true, false => some below
  | false, true => some (below + 1)
  | false, false => none

/-- The first grid with a neighbour that rounds to `x`, from `digits` digits on. -/
def searchFrom (x : Binary64) (leading : Int) : Nat → Nat → Nat × Int
  | 0, _ => (x.numerator, 0)
  | left + 1, digits =>
    let p := leading - digits + 1
    match neighbour? x p with
    | some c => (c, p)
    | none => searchFrom x leading left (digits + 1)

/-- The coefficient and the exponent of the shortest decimal of a finite number. -/
def shortest (x : Binary64) : Nat × Int :=
  if x.isZero then (0, 0)
  else
    let (c, p) := searchFrom x (leadingExponent x.numerator x.denominator) 17 1
    if c % 10 == 0 then (c / 10, p + 1) else (c, p)

/-- Whether a number whose leading digit has this exponent is shown positionally. -/
def isPositional (leading : Int) : Bool := -4 ≤ leading && leading < 16

/-- A finite number as the decimal that its text writes. -/
def toDecimal (x : Binary64) : Decimal :=
  let (c, p) := x.shortest
  if isPositional (p + digitCount c - 1) && 0 ≤ p then
    ⟨x.negative, c * 10 ^ (p.toNat + 1), -1⟩
  else ⟨x.negative, c, p⟩

/-- An exponent as at least two digits. -/
def twoDigits (e : Nat) : List Char :=
  if e < 10 then '0' :: decimalDigits e else decimalDigits e

/-- The text of a finite number, as characters. -/
def finiteChars (x : Binary64) : List Char :=
  let d := x.toDecimal
  let digits := decimalDigits d.coefficient
  let leading := d.adjusted
  signChars x.negative ++
    if d.exponent < 0 && isPositional leading then pointed digits (-d.exponent).toNat
    else
      let sign := if leading < 0 then '-' else '+'
      leadingPoint digits ++ 'e' :: sign :: twoDigits leading.natAbs

/-- The text of a number. -/
def text (x : Binary64) : String :=
  if x.isNan then "nan"
  else if x.isFinite then String.ofList x.finiteChars
  else if x.negative then "-inf" else "inf"

example : text (ofDecimal ⟨false, 25, 0⟩) = "25.0" := by decide +kernel
example : text (ofDecimal ⟨false, 1, 22⟩) = "1e+22" := by decide +kernel
example : text (ofDecimal ⟨false, 1, 16⟩) = "1e+16" := by decide +kernel
example : text (ofDecimal ⟨false, 1, -5⟩) = "1e-05" := by decide +kernel
example : text (ofDecimal ⟨false, 1, -4⟩) = "0.0001" := by decide +kernel
example : text (ofDecimal ⟨false, 5, -324⟩) = "5e-324" := by decide +kernel
example : text (zero true) = "-0.0" := by decide +kernel

end Binary64
end Verdict
