/-
# Byte encodings of text

UTF-8, UTF-16 and UTF-32.  A byte string that encodes no text has none.

| encoding | unit | character |
| --- | --- | --- |
| UTF-8 | 8 bits | one to four units, the shortest form only |
| UTF-16 | 16 bits | one unit, or a high and a low surrogate |
| UTF-32 | 32 bits | one unit |

A surrogate alone is no character.  `Utf8.decode` refuses the bytes of one.  `Encoding.decode` lets them
pass in every encoding; a text has no place for the surrogate itself, and U+FFFD stands for it.
-/

namespace Verdict
namespace Text

/-- The character with a code point, if it is one. -/
def charOf? (n : Nat) : Option Char := if n.isValidChar then some (Char.ofNat n) else none

/-- Whether a code unit is the first half of a surrogate pair. -/
def isHighSurrogate (n : Nat) : Bool := 0xD800 ≤ n && n < 0xDC00

/-- Whether a code unit is the second half of a surrogate pair. -/
def isLowSurrogate (n : Nat) : Bool := 0xDC00 ≤ n && n < 0xE000

/-- Whether a number is a surrogate. -/
def isSurrogate (n : Nat) : Bool := isHighSurrogate n || isLowSurrogate n

/-- The character with a code point, or the one that stands for a surrogate. -/
def charOrSurrogate? (n : Nat) : Option Char :=
  if isSurrogate n then some '\uFFFD' else charOf? n

namespace Utf8

/-- Whether a byte continues a character. -/
def isTail (b : UInt8) : Bool := 0x80 ≤ b.toNat && b.toNat < 0xC0

/-- The payload of a continuing byte. -/
def tailBits (b : UInt8) : Nat := b.toNat - 0x80

/-- The first character of a byte string, with its length in bytes.  What a number of more than one byte
stands for is told by `char?`. -/
def first? (char? : Nat → Option Char) : List UInt8 → Option (Char × Nat)
  | [] => none
  | a :: r =>
    let n := a.toNat
    if n < 0x80 then some (Char.ofNat n, 1)
    else if n < 0xC0 then none
    else if n < 0xE0 then
      match r with
      | b :: _ =>
        let v := (n - 0xC0) * 64 + tailBits b
        if isTail b && 0x80 ≤ v then (char? v).map (·, 2) else none
      | _ => none
    else if n < 0xF0 then
      match r with
      | b :: c :: _ =>
        let v := ((n - 0xE0) * 64 + tailBits b) * 64 + tailBits c
        if isTail b && isTail c && 0x800 ≤ v then (char? v).map (·, 3) else none
      | _ => none
    else if n < 0xF8 then
      match r with
      | b :: c :: d :: _ =>
        let v := (((n - 0xF0) * 64 + tailBits b) * 64 + tailBits c) * 64 + tailBits d
        if isTail b && isTail c && isTail d && 0x10000 ≤ v then (char? v).map (·, 4) else none
      | _ => none
    else none

/-- The characters of a byte string, reading at most `fuel` of them. -/
def decodeFrom (char? : Nat → Option Char) : Nat → List UInt8 → Option (List Char)
  | _, [] => some []
  | 0, _ => none
  | fuel + 1, bs =>
    match first? char? bs with
    | some (c, k) => (decodeFrom char? fuel (bs.drop k)).map (c :: ·)
    | none => none

/-- The text of a byte string whose numbers stand for characters as told: a character takes at least one
byte, so its length bounds their number. -/
def decodeBy (char? : Nat → Option Char) (bs : List UInt8) : Option (List Char) :=
  decodeFrom char? bs.length bs

/-- The text that a byte string encodes. -/
def decode (bs : List UInt8) : Option (List Char) := decodeBy charOf? bs

/-- The bytes of one character. -/
def encodeChar (c : Char) : List UInt8 :=
  let n := c.toNat
  if n < 0x80 then [n.toUInt8]
  else if n < 0x800 then [(0xC0 + n / 64).toUInt8, (0x80 + n % 64).toUInt8]
  else if n < 0x10000 then
    [(0xE0 + n / 4096).toUInt8, (0x80 + n / 64 % 64).toUInt8, (0x80 + n % 64).toUInt8]
  else
    [(0xF0 + n / 262144).toUInt8, (0x80 + n / 4096 % 64).toUInt8, (0x80 + n / 64 % 64).toUInt8,
      (0x80 + n % 64).toUInt8]

/-- The bytes of a text. -/
def encode (cs : List Char) : List UInt8 := cs.flatMap encodeChar

/-- How many bytes the longest beginning of a character takes, at the front of a
byte string that starts with none. -/
def brokenLength : List UInt8 → Nat
  | a :: b :: r =>
    let lead := a.toNat
    let low := if lead == 0xE0 then 0xA0 else if lead == 0xF0 then 0x90 else 0x80
    let high := if lead == 0xED then 0x9F else if lead == 0xF4 then 0x8F else 0xBF
    if 0xE0 ≤ lead && lead ≤ 0xF4 && low ≤ b.toNat && b.toNat ≤ high then
      match r with
      | c :: _ => if 0xF0 ≤ lead && isTail c then 3 else 2
      | [] => 2
    else 1
  | _ => 1

/-- As `decodeFrom`, with a replacement character for each broken one. -/
def decodeLossyFrom : Nat → List UInt8 → List Char
  | _, [] => []
  | 0, _ => []
  | fuel + 1, bs =>
    match first? charOf? bs with
    | some (c, k) => c :: decodeLossyFrom fuel (bs.drop k)
    | none => '\uFFFD' :: decodeLossyFrom fuel (bs.drop (brokenLength bs))

/-- The text of a byte string, broken characters replaced by U+FFFD. -/
def decodeLossy (bs : List UInt8) : List Char := decodeLossyFrom bs.length bs

end Utf8

/-- The order of the bytes in a unit. -/
inductive Endian where
  | big
  | little
deriving DecidableEq, Repr

/-- The 16-bit units of a byte string of even length. -/
def units16 (e : Endian) : List UInt8 → Option (List Nat)
  | [] => some []
  | a :: b :: r =>
    let v := match e with
      | .big => a.toNat * 256 + b.toNat
      | .little => b.toNat * 256 + a.toNat
    (units16 e r).map (v :: ·)
  | _ => none

/-- The 32-bit units of a byte string whose length is a multiple of four. -/
def units32 (e : Endian) : List UInt8 → Option (List Nat)
  | [] => some []
  | a :: b :: c :: d :: r =>
    let v := match e with
      | .big => ((a.toNat * 256 + b.toNat) * 256 + c.toNat) * 256 + d.toNat
      | .little => ((d.toNat * 256 + c.toNat) * 256 + b.toNat) * 256 + a.toNat
    (units32 e r).map (v :: ·)
  | _ => none

/-- The character of a surrogate pair. -/
def pairChar (high low : Nat) : Char :=
  Char.ofNat (0x10000 + (high - 0xD800) * 1024 + (low - 0xDC00))

/-- The text of a list of 16-bit units: two surrogates in a row that make a pair are one character. -/
def ofUnits16 (char? : Nat → Option Char) : List Nat → Option (List Char)
  | [] => some []
  | high :: low :: r =>
    if isHighSurrogate high && isLowSurrogate low then
      (ofUnits16 char? r).map (pairChar high low :: ·)
    else (char? high).bind fun c => (ofUnits16 char? (low :: r)).map (c :: ·)
  | [n] => (char? n).map ([·])

/-- The encodings that a byte string can be in. -/
inductive Encoding where
  | utf8
  | utf16 (e : Endian)
  | utf32 (e : Endian)
deriving DecidableEq, Repr

/-- The text of a byte string in an encoding, whose numbers stand for characters as told. -/
def Encoding.decodeBy (char? : Nat → Option Char) : Encoding → List UInt8 → Option (List Char)
  | .utf8, bs => Utf8.decodeBy char? bs
  | .utf16 e, bs => (units16 e bs).bind (ofUnits16 char?)
  | .utf32 e, bs => (units32 e bs).bind fun us => us.mapM char?

/-- The text that a byte string stands for in an encoding. -/
def Encoding.decode (e : Encoding) (bs : List UInt8) : Option (List Char) :=
  e.decodeBy charOrSurrogate? bs

/-- Encoding one text after another encodes their concatenation. -/
theorem Utf8.encode_append (s t : List Char) :
    Utf8.encode (s ++ t) = Utf8.encode s ++ Utf8.encode t :=
  List.flatMap_append

example : Utf8.decode (Utf8.encode "aé€😀".toList) =
    some "aé€😀".toList := by decide +kernel
example : Utf8.decode [0xC0, 0x80] = none ∧ Utf8.decode [0xED, 0xA0, 0x80] = none := by decide
example : Encoding.utf8.decode [0xED, 0xA0, 0x80] = some ['\uFFFD'] := by decide

end Text
end Verdict
