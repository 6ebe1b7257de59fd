/-
# Writing JSON texts

A value is written without blanks.  Within quotes the quote, the backslash and the control
characters are escaped, everything else stands as itself.  Numbers are written by their
shortest texts, and values that JSON does not know by their own text between quotes.
-/

import Verdict.Text.Letters
import Verdict.Value.Display

namespace Verdict
namespace Json

open Text

/-- One character between quotes. -/
def writtenChar (c : Char) : List Char :=
  if c == '\x22' || c == '\\' then ['\\', c]
  else if c.toNat < 32 then '\\' :: 'u' :: hex 4 c.toNat
  else [c]

/-- A text between quotes. -/
def writtenText (s : String) : List Char := '\x22' :: s.toList.flatMap writtenChar ++ ['\x22']

/-- A binary64 number. -/
def writtenFloat (x : Binary64) : List Char :=
  if x.isNan then "NaN".toList
  else if x.isFinite then x.text.toList
  else if x.negative then "-Infinity".toList
  else "Infinity".toList

mutual

/-- A value as a JSON text. -/
def written : Value → List Char
  | .null => "null".toList
  | .bool b => (if b then "true" else "false").toList
  | .int n => (integerText n).toList
  | .float x => writtenFloat x
  | .text s => writtenText s
  | .list items => '[' :: writtenItems items ++ [']']
  | .object fields => '\x7b' :: writtenMembers fields ++ ['\x7d']
  | v => writtenText v.display

/-- Values with commas between them. -/
def writtenItems : List Value → List Char
  | [] => []
  | [v] => written v
  | v :: r => written v ++ ',' :: writtenItems r

/-- Members with commas between them. -/
def writtenMembers : List (String × Value) → List Char
  | [] => []
  | [(k, v)] => writtenText k ++ ':' :: written v
  | (k, v) :: r => writtenText k ++ ':' :: written v ++ ',' :: writtenMembers r

end

/-- A value as a JSON text. -/
def render (v : Value) : String := String.ofList (written v)

end Json

namespace Value

mutual

/-- Whether JSON knows a value and its parts. -/
def isJson : Value → Bool
  | .bytes _ | .decimal _ | .other _ => false
  | .list items => areJson items
  | .object fields => membersJson fields
  | _ => true

/-- Whether JSON knows all values of a list. -/
def areJson : List Value → Bool
  | [] => true
  | v :: r => v.isJson && areJson r

/-- Whether JSON knows the values of all members. -/
def membersJson : List (String × Value) → Bool
  | [] => true
  | (_, v) :: r => v.isJson && membersJson r

end

end Value
end Verdict
