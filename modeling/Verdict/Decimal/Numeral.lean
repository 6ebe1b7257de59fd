/-
# Number text

A text stands for a number when, without the white space at its ends, it is

    sign? (integer point? | integer? point digits) exponent?

where an integer is a run of digits, or one to three digits and then groups of a
comma and exactly three; an integer may be followed by a point without digits; a
point without an integer needs digits.  The exponent is an `e` or `E`, an optional
sign and digits.  Digits are decimal digits of any script.  A text whose decimal
would be out of range stands for no number.
-/

import Verdict.Decimal.Basic
import Verdict.Text.Blank
import Verdict.Text.Digit

namespace Verdict

open Text

/-- The parts of a written number: its digit values before and after the point and
its exponent, where they are written. -/
structure Numeral where
  negative : Bool
  whole : List Nat
  fraction : Option (List Nat)
  exponent : Option Int
deriving DecidableEq, Repr

namespace Numeral

/-- Whether the number is written without a point and without an exponent. -/
def isInteger (n : Numeral) : Bool := n.fraction.isNone && n.exponent.isNone

/-- The integer that the digits before the point write. -/
def toInt (n : Numeral) : Int :=
  if n.negative then -(ofDigits n.whole : Int) else ofDigits n.whole

/-- The decimal that a numeral writes, whatever its range. -/
def toDecimal (n : Numeral) : Decimal :=
  let fraction := n.fraction.getD []
  ⟨n.negative, ofDigits (n.whole ++ fraction), n.exponent.getD 0 - fraction.length⟩

/-- The decimal that a numeral writes, if it is in range. -/
def decimal? (n : Numeral) : Option Decimal :=
  if n.toDecimal.inRange then some n.toDecimal else none

/-- A sign at the front of a text: whether it is a minus, and the rest. -/
def takeSign : List Char → Bool × List Char
  | '-' :: r => (true, r)
  | '+' :: r => (false, r)
  | cs => (false, cs)

/-- The digits at the front of a text, as values, and the rest. -/
def takeDigits : List Char → List Nat × List Char
  | [] => ([], [])
  | c :: r =>
    match digit? c with
    | some d => ((takeDigits r).map (d :: ·) id)
    | none => ([], c :: r)

/-- The groups of a comma and three digits at the front of a text, as values, and
the rest. -/
def takeGroups : List Char → List Nat × List Char
  | ',' :: a :: b :: c :: r =>
    match digit? a, digit? b, digit? c with
    | some x, some y, some z => (takeGroups r).map (fun ds => x :: y :: z :: ds) id
    | _, _, _ => ([], ',' :: a :: b :: c :: r)
  | cs => ([], cs)

/-- The integer part at the front of a text, and the rest: commas count only after
one to three digits. -/
def takeWhole (cs : List Char) : List Nat × List Char :=
  let (digits, rest) := takeDigits cs
  if 1 ≤ digits.length && digits.length ≤ 3 then
    let (grouped, rest) := takeGroups rest
    (digits ++ grouped, rest)
  else (digits, rest)

/-- A point and the digits after it at the front of a text, and the rest. -/
def takeFraction : List Char → Option (List Nat) × List Char
  | '.' :: r => (takeDigits r).map some id
  | cs => (none, cs)

/-- The exponent that a whole text writes: nothing, or a mark, a sign and digits. -/
def exponent? : List Char → Option (Option Int)
  | [] => some none
  | c :: r =>
    if c == 'e' || c == 'E' then
      let (negative, r) := takeSign r
      match takeDigits r with
      | (d :: ds, []) =>
        let n : Int := ofDigits (d :: ds)
        some (some (if negative then -n else n))
      | _ => none
    else none

/-- The numeral that a text without white space at its ends is. -/
def ofChars? (cs : List Char) : Option Numeral :=
  let (negative, rest) := takeSign cs
  let (whole, rest) := takeWhole rest
  let (fraction, rest) := takeFraction rest
  if whole.isEmpty && (fraction.getD []).isEmpty then none
  else (exponent? rest).map fun e => ⟨negative, whole, fraction, e⟩

end Numeral

/-- The number that a text stands for. -/
def Decimal.ofText? (s : String) : Option Decimal :=
  (Numeral.ofChars? (trim s.toList)).bind Numeral.decimal?

example : Decimal.ofText? " 1,234.50 " = some ⟨false, 123450, -2⟩ := by decide +kernel
example : Decimal.ofText? "-.5e3" = some ⟨true, 5, 2⟩ := by decide +kernel
example : Decimal.ofText? "1,23" = none ∧ Decimal.ofText? "1234,567" = none := by decide +kernel
example : Decimal.ofText? "." = none ∧ Decimal.ofText? "NaN" = none := by decide +kernel

end Verdict
