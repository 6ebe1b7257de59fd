/-
# Quoted texts

A text inside a list or an object is shown between quotes.  The quote is `'`,
unless the text holds a `'` and no double quote.  The quote in use and the
backslash are escaped, tab, line feed and carriage return have short escapes, and
any other character that is not printable is shown by its code point.  A byte
string is quoted in the same way after a `b`, byte by byte.
-/

import Verdict.Text.Letters
import Verdict.Text.Printable

namespace Verdict
namespace Text

/-- The quote for a text: `'`, or `"` where only that avoids escapes. -/
def quoteFor (cs : List Char) : Char :=
  if cs.contains '\x27' && !cs.contains '\x22' then '\x22' else '\x27'

/-- A code point as an escape: two, four or eight hexadecimal digits. -/
def codeEscape (n : Nat) : List Char :=
  if n < 0x100 then '\\' :: 'x' :: hex 2 n
  else if n < 0x10000 then '\\' :: 'u' :: hex 4 n
  else '\\' :: 'U' :: hex 8 n

/-- One character inside quotes. -/
def quotedChar (quote c : Char) : List Char :=
  if c == quote || c == '\\' then ['\\', c]
  else if c == '\n' then ['\\', 'n']
  else if c == '\r' then ['\\', 'r']
  else if c == '\t' then ['\\', 't']
  else if isPrintable c then [c]
  else codeEscape c.toNat

/-- A text between quotes. -/
def quoted (cs : List Char) : List Char :=
  let q := quoteFor cs
  q :: cs.flatMap (quotedChar q) ++ [q]

/-- One byte inside quotes: printable ASCII shows as itself. -/
def quotedByte (quote : Char) (b : UInt8) : List Char :=
  if 32 ≤ b.toNat && b.toNat < 127 || b == 9 || b == 10 || b == 13 then
    quotedChar quote (Char.ofNat b.toNat)
  else codeEscape b.toNat

/-- A byte string between quotes. -/
def quotedBytes (bs : List UInt8) : List Char :=
  let q := quoteFor (bs.map fun b => Char.ofNat b.toNat)
  'b' :: q :: bs.flatMap (quotedByte q) ++ [q]

example : quoted "it's".toList = "\"it's\"".toList := by decide +kernel
example : quotedBytes [65, 0xFF] = "b'A\\xff'".toList := by decide +kernel

end Text
end Verdict
