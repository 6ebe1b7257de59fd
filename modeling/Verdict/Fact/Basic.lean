/-
# Facts

A fact is a supplied value with its content, which is one of four kinds.  Comparison
looks at the content alone; answers echo the value as it was supplied.

| supplied | content |
| --- | --- |
| null | null |
| a truth value | boolean |
| an integer, a finite float or decimal | number, a float by the decimal that its text writes |
| a text | string |
| anything else | string, the text of the value |

A content may have a boolean and a number reading:

| content | boolean reading | number reading |
| --- | --- | --- |
| boolean | itself | none |
| number | whether it is not zero | itself |
| string | of `true`, `yes`, `1`, `false`, `no`, `0` | of number text |
| null | none | none |
-/

import Verdict.Decimal.Numeral
import Verdict.Text.Folding
import Verdict.Text.Letters
import Verdict.Value.Echo

namespace Verdict

open Text

/-- The content of a fact. -/
inductive Content where
  | null
  | boolean (b : Bool)
  | number (d : Decimal)
  | string (s : String)
deriving DecidableEq, Repr

namespace Content

/-- The content of a supplied value.  A list or an object is assumed to have a text. -/
def of : Value → Content
  | .null => .null
  | .bool b => .boolean b
  | .int n => .number (Decimal.ofInt n)
  | .float x => if x.isFinite then .number x.toDecimal else .string x.text
  | .decimal (.finite d) => .number d
  | .text s => .string s
  | v => .string v.display

/-- The name of a content's kind. -/
def kind : Content → String
  | .null => "null"
  | .boolean _ => "boolean"
  | .number _ => "number"
  | .string _ => "string"

/-- The text of a content, which the last stage of equality compares. -/
def text : Content → String
  | .null => ""
  | .boolean b => if b then "true" else "false"
  | .number d => d.text
  | .string s => s

/-- The words that read as true. -/
def trueWords : List String := ["true", "yes", "1"]

/-- The words that read as false. -/
def falseWords : List String := ["false", "no", "0"]

/-- The truth value that a word stands for, in any letter case and with white space at
its ends. -/
def wordReading? (s : String) : Option Bool :=
  let word := String.ofList (lower (trim s.toList))
  if trueWords.contains word then some true
  else if falseWords.contains word then some false
  else none

/-- The boolean reading of a content. -/
def boolean? : Content → Option Bool
  | .null => none
  | .boolean b => some b
  | .number d => some (!d.isZero)
  | .string s => wordReading? s

/-- The number reading of a content. -/
def number? : Content → Option Decimal
  | .number d => some d
  | .string s => Decimal.ofText? s
  | _ => none

/-- Whether two contents are equal.  Null equals null alone.  Otherwise the first reading
that both have decides, boolean before number, and then the case foldings of the texts. -/
def equal (a b : Content) : Bool :=
  match a, b with
  | .null, .null => true
  | .null, _ => false
  | _, .null => false
  | a, b =>
    match a.boolean?, b.boolean? with
    | some x, some y => x == y
    | _, _ =>
      match a.number?, b.number? with
      | some x, some y => x.sameValue y
      | _, _ => fold a.text == fold b.text

end Content

/-- A supplied value with its content. -/
structure Fact where
  content : Content
  source : Value

namespace Fact

/-- The fact that a supplied value is. -/
def of (v : Value) : Fact := ⟨Content.of v, v⟩

/-- The fact of an absent token. -/
def absent : Fact := of .null

/-- The fact as answers echo it. -/
def echo (f : Fact) : Value := f.source.echo

/-- `label = text`: a boolean shows as Yes or No, null as nothing, anything else as its
echo. -/
def describe (label : String) (f : Fact) : String :=
  let shown := match f.content with
    | .boolean b => if b then "Yes" else "No"
    | .null => ""
    | _ => f.echo.display
  label ++ " = " ++ shown

/-- The description of a fact, if its echo and its label have a text. -/
def describe? (label : Value) (f : Fact) : Option String :=
  if f.echo.hasText && label.hasText then some (f.describe label.display) else none

end Fact

/-- Equality between two supplied values. -/
def Value.equal (a b : Value) : Bool := (Content.of a).equal (Content.of b)

example : Value.equal (.text "1,000.0") (.int 1000) = true := by decide +kernel
example : Value.equal (.text " YES ") (.bool true) = true := by decide +kernel
example : Value.equal (.text "Stra\u00dfe") (.text "STRASSE") = true := by decide +kernel
example : Value.equal .null (.text "") = false := by decide +kernel

end Verdict
