/-
# Lenient readings

Fields declared as a text, a truth value or an integer take more than their own type:

| field | takes |
| --- | --- |
| text | a text, bytes in UTF-8 |
| truth value | the numbers 0 and 1, and the words below |
| integer | an integral number, a truth value, digits with a sign, single `_` and a `.0` |

| value | words, in any letter case |
| --- | --- |
| true | `1` `on` `t` `true` `y` `yes` |
| false | `0` `off` `f` `false` `n` `no` |

Words are not trimmed; the text of an integer is.  The zeros at its front may have underscores
among them, and the minus sign behind them.
-/

import Verdict.Text.Blank
import Verdict.Text.Digit
import Verdict.Text.Encoding
import Verdict.Text.Letters
import Verdict.Text.Split
import Verdict.Value.Display

namespace Verdict
namespace Value

open Text

/-- The words that stand for true. -/
def yesWords : List String := ["1", "on", "t", "true", "y", "yes"]

/-- The words that stand for false. -/
def noWords : List String := ["0", "off", "f", "false", "n", "no"]

/-- The truth value that a word stands for. -/
def boolOfText? (s : String) : Option Bool :=
  let word := String.ofList (lower s.toList)
  if yesWords.contains word then some true
  else if noWords.contains word then some false
  else none

/-- The truth value that an integer stands for. -/
def boolOfInt? (n : Int) : Option Bool :=
  if n == 0 then some false else if n == 1 then some true else none

/-- The integer that a binary64 number is, within the range of 64-bit words. -/
def intOfFloat? (x : Binary64) : Option Int :=
  if x.isFinite && x.numerator % x.denominator == 0 && x.numerator / x.denominator < 2 ^ 63 then
    let n : Int := (x.numerator / x.denominator : Nat)
    some (if x.negative then -n else n)
  else none

/-- A number behind the zeros at its front and the underscores among them, if it begins with a
digit; the last character always stays, and so does a zero before a point. -/
def dropZeros? : List Char → Option (List Char)
  | [] => none
  | c :: r =>
    if c == '0' then some (dropMore c r) else if isAsciiDigit c then some (c :: r) else none
where
  /-- What is left of a number that begins with a character that may be dropped. -/
  dropMore (before : Char) : List Char → List Char
    | [] => [before]
    | c :: r =>
      if c == '0' || c == '_' then dropMore c r
      else if c == '.' then before :: c :: r
      else c :: r

/-- A number without a point that only zeros follow. -/
def dropZeroFraction (cs : List Char) : List Char :=
  match cs.span (· != '.') with
  | (whole, '.' :: r) => if !r.isEmpty && r.all (· == '0') then whole else cs
  | _ => cs

/-- A number without its underscores, if none of them stands at an end or next to another. -/
def dropUnderscores (cs : List Char) : List Char :=
  if (splitOn '_' cs).any (·.isEmpty) then cs else cs.filter (· != '_')

/-- The natural number that digits write, without zeros at their front. -/
def naturalOfDigits? (cs : List Char) : Option Nat :=
  if cs.isEmpty || !cs.all isAsciiDigit || (cs.head? == some '0' && 1 < cs.length) ||
      maxIntegerDigits < cs.length then none
  else some (ofDigits (cs.map fun c => c.toNat - 48))

/-- The integer that digits write behind at most one minus sign. -/
def intOfDigits? : List Char → Option Int
  | '-' :: r => (naturalOfDigits? r).map fun n => -(n : Int)
  | cs => (naturalOfDigits? cs).map fun n => (n : Int)

/-- The digits of a number without a sign: a minus sign may stand behind zeros. -/
def plainDigits? (cs : List Char) : Option (List Char) :=
  (dropZeros? cs).map fun r => dropUnderscores (dropZeroFraction r)

/-- The integer that a text writes. -/
def intOfText? (s : String) : Option Int :=
  match trimSpaces s.toList with
  | '-' :: r => (plainDigits? r).bind fun ds => (naturalOfDigits? ds).map fun n => -(n : Int)
  | '+' :: r => (plainDigits? r).bind intOfDigits?
  | cs => (plainDigits? cs).bind intOfDigits?

/-- The text of a value in a text field. -/
def asText? : Value → Option String
  | .text s => some s
  | .bytes bs => (Utf8.decode bs).map String.ofList
  | _ => none

/-- The truth value of a value in a truth-value field. -/
def asBool? : Value → Option Bool
  | .bool b => some b
  | .int n => boolOfInt? n
  | .float x => (intOfFloat? x).bind boolOfInt?
  | .decimal (.finite d) => (intOfFloat? (Binary64.ofDecimal d)).bind boolOfInt?
  | v => v.asText?.bind boolOfText?

/-- The integer of a value in an integer field. -/
def asInt? : Value → Option Int
  | .bool b => some (if b then 1 else 0)
  | .int n => some n
  | .float x => intOfFloat? x
  | .decimal (.finite d) => if d.isIntegral then some d.toInt else none
  | v => v.asText?.bind intOfText?

/-- The texts of a list of text fields. -/
def asTexts? : List Value → Option (List String)
  | [] => some []
  | v :: r => v.asText?.bind fun s => (asTexts? r).map (s :: ·)

example : intOfText? " 1_000 " = some 1000 ∧ intOfText? "1__0" = none := by decide +kernel
example : intOfText? "0-1" = some (-1) ∧ intOfText? "-0__1" = some (-1) := by decide +kernel
example : intOfText? "-007.0" = some (-7) ∧ intOfText? "1.5" = none := by decide +kernel
example : asBool? (.text "Yes") = some true ∧ asBool? (.text " yes") = none := by decide +kernel

end Value
end Verdict
