/-
# Echoed values

A value is echoed in answers as null, a truth value, an integer, a binary64 number or a
text.  Only decimals and composite values change:

| value | echo |
| --- | --- |
| an integral decimal below `10 ^ 18` | the integer |
| another decimal that is the text of a binary64 number | that number |
| any other decimal | its scientific text |
| bytes, a list, an object | its text |

An echoed decimal keeps its value and never has its exponent expanded.  In a payload, a
JSON document, numbers that JSON cannot write become null.
-/

import Verdict.Text.Encoding
import Verdict.Value.Display

namespace Verdict

/-- The adjusted exponent at which integral decimals stop being echoed as integers. -/
def Decimal.integerEchoLimit : Int := 18

/-- The echo of a decimal. -/
def Decimal.echo (d : Decimal) : Value :=
  if d.adjusted < integerEchoLimit && d.isIntegral then .int d.toInt
  else
    let x := Binary64.ofDecimal d
    if x.isFinite && x.toDecimal.sameValue d then .float x else .text d.text

namespace Value

/-- The echo of a value. -/
def echo : Value → Value
  | .null => .null
  | .bool b => .bool b
  | .int n => .int n
  | .float x => .float x
  | .text s => .text s
  | .decimal (.finite d) => d.echo
  | v => .text v.display

mutual

/-- A value as a payload shows it. -/
def payload : Value → Value
  | .float x => if x.isFinite then .float x else .null
  | .decimal d => .text d.text
  | .bytes bs => .text (String.ofList (Text.Utf8.decodeLossy bs))
  | .list items => .list (payloads items)
  | .object fields => .object (fieldPayloads fields)
  | .other name => .text name
  | v => v

/-- The items of a list as a payload shows them. -/
def payloads : List Value → List Value
  | [] => []
  | v :: r => v.payload :: payloads r

/-- The members of an object as a payload shows them. -/
def fieldPayloads : List (String × Value) → List (String × Value)
  | [] => []
  | (k, v) :: r => (k, v.payload) :: fieldPayloads r

end

/-- The values that a JSON document writes as one scalar. -/
def isScalar : Value → Bool
  | .null | .bool _ | .int _ | .text _ => true
  | .float x => x.isFinite
  | _ => false

theorem isScalar_payload_float {x : Binary64} : ((Value.float x).payload).isScalar = true := by
  unfold payload
  split
  · next h => simpa [isScalar] using h
  · rfl

theorem isScalar_payload_decimal (d : Decimal) : (d.echo.payload).isScalar = true := by
  unfold Decimal.echo
  split
  · rfl
  · dsimp only
    split
    · exact isScalar_payload_float
    · rfl

/-- The payload form of an echo is a scalar of a JSON document. -/
theorem isScalar_payload_echo (v : Value) : (v.echo.payload).isScalar = true := by
  cases v with
  | float x => exact isScalar_payload_float
  | decimal d =>
    cases d with
    | finite d => exact isScalar_payload_decimal d
    | infinite n => rfl
    | nan s n p => rfl
  | _ => rfl

end Value
end Verdict
