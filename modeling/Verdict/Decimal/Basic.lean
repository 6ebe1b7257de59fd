/-
# Exact decimals

A decimal is a sign, a coefficient and a power of ten: `± coefficient · 10 ^
exponent`.  It keeps the form in which it was written, so `2.5` and `2.50` are two
decimals of one value, and zero has a sign and an exponent.

| quantity | of `2.50` | of `1E+22` |
| --- | --- | --- |
| coefficient | 250 | 1 |
| exponent | -2 | 22 |
| adjusted exponent (that of the leading digit) | 0 | 22 |

A decimal exists up to the adjusted exponent `maxAdjusted` and down to the
exponent `minExponent`; no operation here expands a power of ten of that size.
-/

namespace Verdict

/-- A power of natural numbers is that of `Nat`, whichever libraries a module sees. -/
@[default_instance high]
instance natPow : Pow Nat Nat := instPowNat

/-- A finite decimal number, in the form in which it was written. -/
structure Decimal where
  negative : Bool
  coefficient : Nat
  exponent : Int
deriving DecidableEq, Repr

/-- How many decimal digits a number has; zero has one. -/
def digitCount (n : Nat) : Nat := if n < 10 then 1 else digitCount (n / 10) + 1
termination_by n

theorem digitCount_pos (n : Nat) : 0 < digitCount n := by
  unfold digitCount
  split <;> omega

/-- A number has at most so many digits exactly when it is below that power of ten. -/
theorem digitCount_le_iff (n : Nat) {k : Nat} (hk : 0 < k) : digitCount n ≤ k ↔ n < 10 ^ k := by
  induction k generalizing n with
  | zero => omega
  | succ k ih =>
    have hpow : 0 < 10 ^ k := Nat.pow_pos (by decide)
    have hpos := digitCount_pos (n / 10)
    unfold digitCount
    split
    · rw [Nat.pow_succ]
      omega
    · cases k with
      | zero => omega
      | succ k =>
        rw [Nat.add_le_add_iff_right, ih _ (by omega), Nat.div_lt_iff_lt_mul (by decide),
          ← Nat.pow_succ]

/-- The decimal digits of a number. -/
def decimalDigits (n : Nat) : List Char := Nat.toDigits 10 n

/-- The text of an integer. -/
def integerText (n : Int) : String :=
  match n with
  | .ofNat k => String.ofList (decimalDigits k)
  | .negSucc k => String.ofList ('-' :: decimalDigits (k + 1))

namespace Decimal

/-- The largest adjusted exponent. -/
def maxAdjusted : Int := 999999999999999999

/-- The least exponent. -/
def minExponent : Int := -1999999999999999997

/-- The exponent of the leading digit. -/
def adjusted (d : Decimal) : Int := d.exponent + digitCount d.coefficient - 1

/-- Whether a decimal of this form exists. -/
def inRange (d : Decimal) : Bool := d.adjusted ≤ maxAdjusted && minExponent ≤ d.exponent

/-- Whether the value is zero. -/
def isZero (d : Decimal) : Bool := d.coefficient == 0

/-- An integer as a decimal with exponent zero. -/
def ofInt (n : Int) : Decimal := ⟨n < 0, n.natAbs, 0⟩

/-- The opposite decimal. -/
def neg (d : Decimal) : Decimal := { d with negative := !d.negative }

/-- Whether the value is an integer.  A negative exponent that reaches beyond the
coefficient's digits leaves an integer only of zero. -/
def isIntegral (d : Decimal) : Bool :=
  d.isZero || 0 ≤ d.exponent ||
    (-d.exponent < digitCount d.coefficient &&
      d.coefficient % 10 ^ (-d.exponent).toNat == 0)

/-- The integer with the value of an integral decimal: zero keeps no exponent. -/
def toInt (d : Decimal) : Int :=
  let magnitude : Nat :=
    if d.isZero then 0
    else if 0 ≤ d.exponent then d.coefficient * 10 ^ d.exponent.toNat
    else d.coefficient / 10 ^ (-d.exponent).toNat
  if d.negative then -(magnitude : Int) else magnitude

/-- The order of two magnitudes, zero below all others.  Unequal adjusted exponents
decide; equal ones leave a difference of exponents that is less than a number of
digits, and only that is expanded. -/
def compareMagnitude (a b : Decimal) : Ordering :=
  if a.isZero || b.isZero then compare a.coefficient b.coefficient
  else
    match compare a.adjusted b.adjusted with
    | .eq =>
      compare (a.coefficient * 10 ^ (a.exponent - b.exponent).toNat)
        (b.coefficient * 10 ^ (b.exponent - a.exponent).toNat)
    | o => o

/-- The order of two decimals by value. -/
def order (a b : Decimal) : Ordering :=
  if a.isZero && b.isZero then .eq
  else if a.isZero then if b.negative then .gt else .lt
  else if b.isZero then if a.negative then .lt else .gt
  else
    match a.negative, b.negative with
    | false, false => compareMagnitude a b
    | true, true => compareMagnitude b a
    | true, false => .lt
    | false, true => .gt

/-- Whether two decimals have one value. -/
def sameValue (a b : Decimal) : Bool := order a b == .eq

example : order ⟨false, 250, -2⟩ ⟨false, 25, -1⟩ = .eq := by decide +kernel
example : order ⟨false, 1, 999999999999999999⟩ ⟨false, 5, 0⟩ = .gt := by decide +kernel

end Decimal

/-- A decimal, or one of the values that stand for none. -/
inductive ExtendedDecimal where
  | finite (d : Decimal)
  | infinite (negative : Bool)
  | nan (signaling negative : Bool) (payload : Option Nat)
deriving DecidableEq, Repr

end Verdict
