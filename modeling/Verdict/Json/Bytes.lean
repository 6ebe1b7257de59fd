/-
# JSON in bytes

The encoding of a byte string shows in its first bytes.

| first bytes | encoding |
| --- | --- |
| a byte order mark | the encoding of the mark |
| `00 00` | UTF-32, big-endian |
| `00 xx` | UTF-16, big-endian |
| `xx 00 00 00` | UTF-32, little-endian |
| `xx 00` | UTF-16, little-endian |
| anything else | UTF-8 |

The second half of the table needs four bytes, or two for UTF-16.

Surrogates pass that are in no pair, in the bytes as in the escapes of a text, and U+FFFD stands for each.
The texts and byte strings without one are told by `surrogatesPaired` and `bytesPaired`.
-/

import Verdict.Json.Reader
import Verdict.Text.Surrogate

namespace Verdict
namespace Json

open Text

/-- The encoding that zeros among the first bytes show. -/
def zeroPattern : List UInt8 → Encoding
  | [0, _] => .utf16 .big
  | [_, 0] => .utf16 .little
  | a :: b :: c :: d :: _ =>
    if a == 0 then if b == 0 then .utf32 .big else .utf16 .big
    else if b == 0 then if c == 0 && d == 0 then .utf32 .little else .utf16 .little
    else .utf8
  | _ => .utf8

/-- The encoding of a byte string, and its bytes after the byte order mark. -/
def encodingOf : List UInt8 → Encoding × List UInt8
  | 0x00 :: 0x00 :: 0xFE :: 0xFF :: r => (.utf32 .big, r)
  | 0xFF :: 0xFE :: 0x00 :: 0x00 :: r => (.utf32 .little, r)
  | 0xFE :: 0xFF :: r => (.utf16 .big, r)
  | 0xFF :: 0xFE :: r => (.utf16 .little, r)
  | 0xEF :: 0xBB :: 0xBF :: r => (.utf8, r)
  | bs => (zeroPattern bs, bs)

/-- The text of a byte string. -/
def decodeBytes (bs : List UInt8) : Option (List Char) :=
  (encodingOf bs).1.decode (encodingOf bs).2

/-- Whether every surrogate that a text names is one of a pair. -/
def surrogatesPaired (cs : List Char) : Bool := inPairs (escapedNumbers [('u', 4)] cs)

/-- Whether no byte string of a surrogate stands in a byte string, and every one that its text names is one of
a pair. -/
def bytesPaired (bs : List UInt8) : Bool :=
  match decodeBytes bs with
  | some cs =>
    ((encodingOf bs).1.decodeBy charOf? (encodingOf bs).2).isSome && surrogatesPaired cs
  | none => true

example : encodingOf [0x7B, 0x7D] = (.utf8, [0x7B, 0x7D]) := by decide
example : encodingOf [0x7B, 0, 0x7D, 0] = (.utf16 .little, [0x7B, 0, 0x7D, 0]) := by decide

end Json
end Verdict
