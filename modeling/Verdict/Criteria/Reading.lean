/-
# Reading rules

Rules arrive as a JSON text, as its bytes, or already decoded.  Rules that cannot be used
stand for the empty document.

| rules | notice |
| --- | --- |
| null, a blank text, blank bytes | none |
| a text or bytes that are not JSON | `undecodable` |
| a value other than an object | `notAnObject` |
| an object whose `groups` are absent or null | `withoutGroups` |
| an object that describes no document | `invalid` |

One fault is not absorbed: a number whose exponent no decimal has.
-/

import Verdict.Criteria.Decode
import Verdict.Json.Bytes
import Verdict.Report.Basic

namespace Verdict
namespace Document

/-- The empty document, for rules that cannot be used. -/
def unusable (n : Notice) : Reported Document := ⟨[n], .ok empty⟩

/-- The document that a decoded value describes. -/
def ofValue : Value → Reported Document
  | .object fields =>
    match (Value.lookup? "groups" fields).getD .null with
    | .null => unusable .withoutGroups
    | _ =>
      match ofFields? fields with
      | some d => .done d
      | none => unusable .invalid
  | v => unusable (.notAnObject v.typeName)

/-- The document of a JSON text that has been read, or of the fault in it. -/
def ofRead : Except Json.Fault Value → Reported Document
  | .ok v => ofValue v
  | .error .outOfRange => .fail .decimalRange
  | .error _ => unusable .undecodable

/-- The document of a text that is not blank. -/
def ofChars (cs : List Char) : Reported Document := ofRead (Json.read .rules cs)

/-- The document of a text. -/
def ofText (s : String) : Reported Document :=
  if Text.allBlank s then .done empty else ofChars s.toList

/-- The document of a byte string. -/
def ofBytes (bs : List UInt8) : Reported Document :=
  if bs.all Text.isBlankByte then .done empty
  else
    match Json.decodeBytes bs with
    | some cs => ofChars cs
    | none => unusable .undecodable

/-- The document of supplied rules. -/
def read : Value → Reported Document
  | .null => .done empty
  | .text s => ofText s
  | .bytes bs => ofBytes bs
  | v => ofValue v

end Document
end Verdict
