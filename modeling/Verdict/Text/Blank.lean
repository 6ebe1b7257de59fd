/-
# Blank characters

A space is a character with the Unicode property White_Space.  White space is any of them, and
the four information separators U+001C … U+001F.  Texts are trimmed of white space at both ends,
the texts of numbers of spaces only.
-/

namespace Verdict
namespace Text

/-- Whether a character is a space. -/
def isSpace (c : Char) : Bool :=
  let n := c.toNat
  (9 ≤ n && n ≤ 13) || n == 32 || n == 0x85 || n == 0xA0 || n == 0x1680 ||
    (0x2000 ≤ n && n ≤ 0x200A) || n == 0x2028 || n == 0x2029 || n == 0x202F || n == 0x205F ||
    n == 0x3000

/-- Whether a character is white space. -/
def isBlank (c : Char) : Bool := isSpace c || (28 ≤ c.toNat && c.toNat ≤ 31)

/-- Whether a byte is white space in the ASCII range. -/
def isBlankByte (b : UInt8) : Bool := b == 32 || (9 ≤ b && b ≤ 13)

/-- The part of a list between its first and its last element that fails `p`. -/
def strip {α : Type} (p : α → Bool) (xs : List α) : List α :=
  ((xs.dropWhile p).reverse.dropWhile p).reverse

/-- A text without the white space at its ends. -/
def trim (cs : List Char) : List Char := strip isBlank cs

/-- A text without the spaces at its ends. -/
def trimSpaces (cs : List Char) : List Char := strip isSpace cs

/-- Whether a text holds nothing but white space. -/
def allBlank (s : String) : Bool := s.toList.all isBlank

end Text
end Verdict
