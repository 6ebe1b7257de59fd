/-
# The text of a value

Inside a list or an object every value is shown as a literal: texts and byte strings
quoted, decimals named as such, `None`, `True` and `False` spelled out.

| value | shown |
| --- | --- |
| `[1, "a", null, true, 1.5]` | `[1, 'a', None, True, 1.5]` |
| an object | `\{'k': [1]}` |
| the decimal 1.50 | `Decimal('1.50')` |

Standing alone a text shows as itself and a decimal as its scientific text.

Where a value holds an integer of more than `maxIntegerDigits` digits there is no such text (`hasText`).
Showing a list or an object also needs room on the call stack for each level of it.  That a list or an
object among the facts has a text, and that there is room to show it, is an assumption about the caller:
the content of such a fact is taken to be its text.
-/

import Verdict.Binary64.Shortest
import Verdict.Text.Quoted
import Verdict.Value.Basic

namespace Verdict
namespace Value

open Text

/-- The word for a truth value. -/
def boolWord (b : Bool) : String := if b then "True" else "False"

mutual

/-- A value as a literal. -/
def literal : Value → List Char
  | .null => "None".toList
  | .bool b => (boolWord b).toList
  | .int n => (integerText n).toList
  | .float x => x.text.toList
  | .decimal d => "Decimal('".toList ++ d.text.toList ++ "')".toList
  | .text s => quoted s.toList
  | .bytes bs => quotedBytes bs
  | .list items => '[' :: literals items ++ [']']
  | .object fields => '\x7b' :: memberLiterals fields ++ ['\x7d']
  | .other name => name.toList

/-- Literals with commas between them. -/
def literals : List Value → List Char
  | [] => []
  | [v] => v.literal
  | v :: r => v.literal ++ ',' :: ' ' :: literals r

/-- Members with commas between them. -/
def memberLiterals : List (String × Value) → List Char
  | [] => []
  | [(k, v)] => quoted k.toList ++ ':' :: ' ' :: v.literal
  | (k, v) :: r => quoted k.toList ++ ':' :: ' ' :: v.literal ++ ',' :: ' ' :: memberLiterals r

end

/-- The text of a value that stands alone, where it has one. -/
def display : Value → String
  | .text s => s
  | .decimal d => d.text
  | v => String.ofList v.literal

/-- The most digits that the text of an integer may have. -/
def maxIntegerDigits : Nat := 4300

mutual

/-- Whether a value has a text: no integer in it has too many digits. -/
def hasText : Value → Bool
  | .int n => digitCount n.natAbs ≤ maxIntegerDigits
  | .list items => haveText items
  | .object fields => membersHaveText fields
  | _ => true

/-- Whether values have texts. -/
def haveText : List Value → Bool
  | [] => true
  | v :: r => v.hasText && haveText r

/-- Whether the values of members have texts. -/
def membersHaveText : List (String × Value) → Bool
  | [] => true
  | (_, v) :: r => v.hasText && membersHaveText r

end

example : display (.list [.int 1, .text "a", .null, .bool true]) = "[1, 'a', None, True]" := by
  decide +kernel

end Value
end Verdict
