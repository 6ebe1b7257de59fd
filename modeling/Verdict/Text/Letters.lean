/-
# ASCII letters

Keywords are ASCII words, so recognising one in any letter case needs the case
maps of ASCII only: no other character maps onto the letters of a keyword.
-/

namespace Verdict
namespace Text

/-- The small letter of an ASCII capital, any other character itself. -/
def lowerChar (c : Char) : Char :=
  if 65 ≤ c.toNat && c.toNat ≤ 90 then Char.ofNat (c.toNat + 32) else c

/-- The capital of an ASCII small letter, any other character itself. -/
def upperChar (c : Char) : Char :=
  if 97 ≤ c.toNat && c.toNat ≤ 122 then Char.ofNat (c.toNat - 32) else c

/-- A text with its ASCII capitals made small. -/
def lower (cs : List Char) : List Char := cs.map lowerChar

/-- A text with its ASCII small letters made capitals. -/
def upper (cs : List Char) : List Char := cs.map upperChar

/-- The value of a hexadecimal digit. -/
def hexDigit? (c : Char) : Option Nat :=
  let n := c.toNat
  if 48 ≤ n && n ≤ 57 then some (n - 48)
  else if 65 ≤ n && n ≤ 70 then some (n - 55)
  else if 97 ≤ n && n ≤ 102 then some (n - 87)
  else none

/-- The hexadecimal digit of a value below 16, in small letters. -/
def hexChar (n : Nat) : Char := if n < 10 then Char.ofNat (48 + n) else Char.ofNat (87 + n)

/-- The last `width` hexadecimal digits of a number. -/
def hex : Nat → Nat → List Char
  | 0, _ => []
  | width + 1, n => hex width (n / 16) ++ [hexChar (n % 16)]

theorem length_hex (width n : Nat) : (hex width n).length = width := by
  induction width generalizing n with
  | zero => rfl
  | succ w ih => simp [hex, ih]

example : hex 4 0x20ac = "20ac".toList := by decide

end Text
end Verdict
