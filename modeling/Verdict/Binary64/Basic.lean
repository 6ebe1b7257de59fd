/-
# Binary64 numbers

A binary64 number is a sign and a magnitude, the 63 bits of the interchange format
below the sign bit.  Magnitudes are ordered as the numbers are:

| magnitude | number |
| --- | --- |
| `0` | zero |
| below `2 ^ 52` | `magnitude · 2 ^ -1074` |
| below `2047 · 2 ^ 52` | `(2 ^ 52 + magnitude % 2 ^ 52) · 2 ^ (magnitude / 2 ^ 52 - 1075)` |
| `2047 · 2 ^ 52` | infinity |
| above | not a number |

Rounding goes to the nearest number, a tie to the even magnitude, as the format
prescribes.
-/

import Verdict.Decimal.Basic

namespace Verdict

/-- A binary64 number. -/
structure Binary64 where
  negative : Bool
  magnitude : Fin (2 ^ 63)
deriving DecidableEq, Repr

namespace Binary64

/-- The magnitude of infinity. -/
def infinityMagnitude : Nat := 2047 * 2 ^ 52

/-- Zero, with its sign. -/
def zero (negative : Bool) : Binary64 := ⟨negative, ⟨0, by decide⟩⟩

/-- Infinity, with its sign. -/
def infinity (negative : Bool) : Binary64 := ⟨negative, ⟨infinityMagnitude, by decide⟩⟩

/-- The value that is not a number. -/
def nan : Binary64 := ⟨false, ⟨infinityMagnitude + 2 ^ 51, by decide⟩⟩

/-- Whether the number is neither infinite nor not a number. -/
def isFinite (x : Binary64) : Bool := x.magnitude.val < infinityMagnitude

/-- Whether the value is not a number. -/
def isNan (x : Binary64) : Bool := infinityMagnitude < x.magnitude.val

/-- Whether the number is a zero. -/
def isZero (x : Binary64) : Bool := x.magnitude.val == 0

/-- The integer `m` of a finite number `± m · 2 ^ e`. -/
def significand (x : Binary64) : Nat :=
  if x.magnitude.val < 2 ^ 52 then x.magnitude.val else 2 ^ 52 + x.magnitude.val % 2 ^ 52

/-- The exponent `e` of a finite number `± m · 2 ^ e`. -/
def scale (x : Binary64) : Int :=
  if x.magnitude.val < 2 ^ 52 then -1074 else (x.magnitude.val / 2 ^ 52 : Nat) - 1075

/-- A finite number as a fraction: the numerator of its magnitude. -/
def numerator (x : Binary64) : Nat := x.significand * 2 ^ x.scale.toNat

/-- A finite number as a fraction: the denominator of its magnitude. -/
def denominator (x : Binary64) : Nat := 2 ^ (-x.scale).toNat

/-- The opposite number. -/
def neg (x : Binary64) : Binary64 := { x with negative := !x.negative }

/-- The quotient of two naturals rounded to the nearest one, a tie to the even one. -/
def roundDiv (n d : Nat) : Nat :=
  let q := n / d
  let r := n % d
  if d < 2 * r || (2 * r == d && q % 2 == 1) then q + 1 else q

/-- The exponent `e` for which `n / d` lies in `[2 ^ 52, 2 ^ 53) · 2 ^ e`, but no less
than that of the smallest numbers. -/
def scaleFor (n d : Nat) : Int :=
  let guess : Int := (Nat.log2 n : Int) - Nat.log2 d - 53
  let fits : Bool := n * 2 ^ (-guess).toNat < d * 2 ^ guess.toNat * 2 ^ 53
  max (if fits then guess else guess + 1) (-1074)

/-- The number nearest to `± n / d`. -/
def ofRatio (negative : Bool) (n d : Nat) : Binary64 :=
  if n == 0 then zero negative
  else
    let e := scaleFor n d
    let m := roundDiv (n * 2 ^ (-e).toNat) (d * 2 ^ e.toNat)
    let magnitude := (e + 1074).toNat * 2 ^ 52 + m
    if h : magnitude < infinityMagnitude then
      ⟨negative, ⟨magnitude, Nat.lt_trans h (by decide)⟩⟩
    else infinity negative

/-- The number nearest to a decimal.  Beyond the adjusted exponents -400 and 400 the
answer is zero and infinity, and no power of ten is expanded. -/
def ofDecimal (d : Decimal) : Binary64 :=
  if d.isZero || d.adjusted < -400 then zero d.negative
  else if 400 < d.adjusted then infinity d.negative
  else if 0 ≤ d.exponent then ofRatio d.negative (d.coefficient * 10 ^ d.exponent.toNat) 1
  else ofRatio d.negative d.coefficient (10 ^ (-d.exponent).toNat)

/-- The numerator of a finite number with its sign. -/
def signedNumerator (x : Binary64) : Int := if x.negative then -(x.numerator : Int) else x.numerator

/-- The sum of two finite numbers, rounded: a zero is negative only as the sum of two. -/
def addFinite (x y : Binary64) : Binary64 :=
  let n := x.signedNumerator * y.denominator + y.signedNumerator * x.denominator
  if n == 0 then zero (x.negative && y.negative)
  else ofRatio (n < 0) n.natAbs (x.denominator * y.denominator)

/-- The sum of two numbers: that of opposite infinities is not a number. -/
def add (x y : Binary64) : Binary64 :=
  if x.isFinite && y.isFinite then addFinite x y
  else if x.isNan || y.isNan || (!x.isFinite && !y.isFinite && x.negative != y.negative) then nan
  else if x.isFinite then y
  else x

/-- The product of two numbers, rounded: that of zero and infinity is not a number. -/
def mul (x y : Binary64) : Binary64 :=
  let negative := x.negative != y.negative
  if x.isFinite && y.isFinite then
    ofRatio negative (x.numerator * y.numerator) (x.denominator * y.denominator)
  else if x.isNan || y.isNan || x.isZero || y.isZero then nan
  else infinity negative

example : (ofDecimal ⟨false, 1, 0⟩).magnitude.val = 1023 * 2 ^ 52 := by decide +kernel
example : (ofDecimal ⟨false, 1, -1⟩).magnitude.val = 0x3FB999999999999A := by decide +kernel
example : (ofDecimal ⟨false, 5, -324⟩).magnitude.val = 1 := by decide +kernel
example : ofDecimal ⟨false, 2, 308⟩ = infinity false := by decide +kernel
example : (infinity true).add (infinity false) = nan := by decide +kernel
example : (infinity true).mul (ofRatio true 1 1) = infinity false := by decide +kernel

end Binary64
end Verdict
