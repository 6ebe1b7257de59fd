/-
# The scientific text of a decimal

The text shows the digits and the exponent as they are.  It is positional when the
exponent is not positive and the leading digit stands at `10 ^ -6` or above, and
otherwise scientific with an `E` and a signed exponent.

| decimal | text |
| --- | --- |
| `250 · 10 ^ -2` | `2.50` |
| `1 · 10 ^ -6` | `0.000001` |
| `1 · 10 ^ -7` | `1E-7` |
| `12 · 10 ^ 5` | `1.2E+6` |
| `0 · 10 ^ 30` | `0E+30` |
-/

import Verdict.Decimal.Basic

namespace Verdict

/-- A signed exponent: the sign is always written. -/
def signedExponent (e : Int) : List Char :=
  (if e < 0 then '-' else '+') :: decimalDigits e.natAbs

/-- A minus sign where one is due. -/
def signChars (negative : Bool) : List Char := if negative then ['-'] else []

/-- Digits with a point `places` from their right, zeros filled in at the left. -/
def pointed (digits : List Char) (places : Nat) : List Char :=
  if places == 0 then digits
  else if places < digits.length then
    digits.take (digits.length - places) ++ '.' :: digits.drop (digits.length - places)
  else '0' :: '.' :: List.replicate (places - digits.length) '0' ++ digits

/-- Digits with a point after the first, if there are more. -/
def leadingPoint : List Char → List Char
  | [] => []
  | [c] => [c]
  | c :: r => c :: '.' :: r

namespace Decimal

/-- The scientific text, as characters. -/
def chars (d : Decimal) : List Char :=
  let digits := decimalDigits d.coefficient
  signChars d.negative ++
    if d.exponent ≤ 0 && -6 ≤ d.adjusted then pointed digits (-d.exponent).toNat
    else leadingPoint digits ++ 'E' :: signedExponent d.adjusted

/-- The scientific text. -/
def text (d : Decimal) : String := String.ofList d.chars

example : text ⟨false, 250, -2⟩ = "2.50" := by decide +kernel
example : text ⟨true, 0, 0⟩ = "-0" := by decide +kernel
example : text ⟨false, 1, -6⟩ = "0.000001" ∧ text ⟨false, 1, -7⟩ = "1E-7" := by decide +kernel
example : text ⟨false, 12, 5⟩ = "1.2E+6" ∧ text ⟨false, 0, 30⟩ = "0E+30" := by decide +kernel

end Decimal

/-- The text of an extended decimal. -/
def ExtendedDecimal.text : ExtendedDecimal → String
  | .finite d => d.text
  | .infinite negative => String.ofList (signChars negative) ++ "Infinity"
  | .nan signaling negative payload =>
    String.ofList (signChars negative) ++ (if signaling then "sNaN" else "NaN") ++
      match payload with
      | some n => String.ofList (decimalDigits n)
      | none => ""

end Verdict
