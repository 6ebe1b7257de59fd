/-
# Tags and scalars

The tag of a node says what its text or its children make.  A plain scalar without a tag has
the tag of the first kind of text that it is:

| tag | text |
| --- | --- |
| `bool` | `yes` `no` `true` `false` `on` `off`, small, capitalised or in capitals |
| `float` | digits with a point, and a signed exponent; base 60 with a point; `.inf`, `.nan` |
| `int` | decimal, `0b` binary, `0` octal, `0x` hexadecimal, base 60 |
| `merge` | `<<` |
| `null` | `~` `null` `Null` `NULL`, nothing |
| `timestamp` | a date, or a date and a time |
| `value` | `=` |
| `str` | anything else |

Underscores separate digits.  A line feed at the end of a text that has another character before
it does not count for its kind.  A scalar with an explicit tag is read by its rule, whatever its
text looks like, and may fail.
-/

import Verdict.Binary64.Basic
import Verdict.Decimal.Numeral
import Verdict.Text.Lowercase
import Verdict.Text.Split
import Verdict.Value.Lenient
import Verdict.Yaml.Timestamp

namespace Verdict
namespace Yaml

open Text

/-- What a node makes. -/
inductive Tag where
  | null
  | bool
  | int
  | float
  | binary
  | timestamp
  | omap
  | pairs
  | set
  | str
  | seq
  | map
  | merge
  | value
  | unknown
deriving DecidableEq, Repr

namespace Tag

/-- The tags by name. -/
def names : List (String × Tag) :=
  [("null", .null), ("bool", .bool), ("int", .int), ("float", .float), ("binary", .binary),
    ("timestamp", .timestamp), ("omap", .omap), ("pairs", .pairs), ("set", .set), ("str", .str),
    ("seq", .seq), ("map", .map), ("merge", .merge), ("value", .value)]

/-- What the addresses of the tags begin with. -/
def nameSpace : String := "tag:yaml.org,2002:"

/-- The tag at an address. -/
def ofAddress (address : String) : Tag :=
  ((names.find? fun n => nameSpace ++ n.1 == address).map (·.2)).getD .unknown

/-! ### Plain scalars -/

/-- A word, capitalised and in capitals. -/
def spellings (word : String) : List (List Char) :=
  let cs := word.toList
  [cs, upper (cs.take 1) ++ cs.drop 1, upper cs]

/-- The words for truth values. -/
def boolWords : List (String × Bool) :=
  [("yes", true), ("no", false), ("true", true), ("false", false), ("on", true), ("off", false)]

/-- A text without the sign at its front. -/
def unsigned (cs : List Char) : List Char := (Numeral.takeSign cs).2

/-- Whether a character is a digit or an underscore. -/
def isDigitOrBar (c : Char) : Bool := isAsciiDigit c || c == '_'

/-- Whether a part may follow a colon in base 60. -/
def isSixty : List Char → Bool
  | [a] => isAsciiDigit a
  | [a, b] => '0' ≤ a && a ≤ '5' && isAsciiDigit b
  | _ => false

/-- Whether a text is digits with underscores, the first of which meets a condition. -/
def isRun (first : Char → Bool) : List Char → Bool
  | [] => false
  | c :: r => first c && r.all isDigitOrBar

/-- Whether a text is a run and then at least one part in base 60. -/
def isSixties (first : Char → Bool) (cs : List Char) : Bool :=
  match splitOn ':' cs with
  | run :: part :: parts => isRun first run && (part :: parts).all isSixty
  | _ => false

/-- Whether a character is a digit other than zero. -/
def isPositiveDigit (c : Char) : Bool := isAsciiDigit c && c != '0'

/-- Whether a plain text is an integer. -/
def isInteger (cs : List Char) : Bool :=
  match unsigned cs with
  | '0' :: 'b' :: ds => !ds.isEmpty && ds.all fun c => c == '0' || c == '1' || c == '_'
  | '0' :: 'x' :: ds => !ds.isEmpty && ds.all fun c => (hexDigit? c).isSome || c == '_'
  | '0' :: ds => ds.all fun c => ('0' ≤ c && c ≤ '7') || c == '_'
  | ds => isRun isPositiveDigit ds || isSixties isPositiveDigit ds

/-- Whether a text is nothing, or an exponent with a sign. -/
def isExponent : List Char → Bool
  | [] => true
  | e :: sign :: ds =>
    (e == 'e' || e == 'E') && (sign == '+' || sign == '-') && !ds.isEmpty && ds.all isAsciiDigit
  | _ => false

/-- Whether a plain text is a number with a point. -/
def isFloat (cs : List Char) : Bool :=
  let (whole, point) := (unsigned cs).span (· != '.')
  match point with
  | [] => false
  | _ :: r =>
    let fraction := r.takeWhile isDigitOrBar
    let exponent := r.dropWhile isDigitOrBar
    (isRun isAsciiDigit whole && isExponent exponent) ||
      (isSixties isAsciiDigit whole && exponent.isEmpty) ||
      (whole.isEmpty && (spellings "inf").contains r) ||
      (cs.head? == some '.' &&
        ((isRun isAsciiDigit fraction && isExponent exponent) ||
          ["nan", "NaN", "NAN"].contains (String.ofList r)))

/-- A text without the line feed at its end. -/
def dropLineFeed (cs : List Char) : List Char :=
  if cs.getLast? == some '\n' then cs.dropLast else cs

/-- Whether a plain text means null. -/
def isNull (cs : List Char) : Bool := cs.isEmpty || cs == ['~'] || (spellings "null").contains cs

/-- The tag of a text by its kind. -/
def ofChars (cs : List Char) : Tag :=
  if boolWords.any fun w => (spellings w.1).contains cs then .bool
  else if isFloat cs then .float
  else if isInteger cs then .int
  else if cs == ['<', '<'] then .merge
  else if isNull cs then .null
  else if (Timestamp.ofChars? cs).any Timestamp.isPlain then .timestamp
  else if cs == ['='] then .value
  else if cs == ['!'] || cs == ['&'] || cs == ['*'] then .unknown
  else .str

/-- The tag of a plain scalar without one. -/
def ofPlain (s : String) : Tag :=
  let cs := s.toList
  if cs == ['\n'] then .str else ofChars (dropLineFeed cs)

end Tag

/-! ### Values of scalars -/

/-- A text without underscores. -/
def withoutBars (s : String) : List Char := s.toList.filter (· != '_')

/-- The value of a digit below a base. -/
def digitIn? (base : Nat) (c : Char) : Option Nat := ((digit? c).or (hexDigit? c)).filter (· < base)

/-- The letter that marks a base after a zero. -/
def baseMark (base : Nat) : Option Char :=
  [(2, 'b'), (8, 'o'), (16, 'x')].lookup base

/-- Digits without the mark of their base. -/
def dropBaseMark (base : Nat) : List Char → List Char
  | '0' :: c :: r => if baseMark base == some (lowerChar c) then r else '0' :: c :: r
  | cs => cs

/-- The integer that a text writes in a base: a decimal one has a limited length. -/
def integerIn? (base : Nat) (cs : List Char) : Option Int :=
  let (negative, r) := Numeral.takeSign (trimSpaces cs)
  let digits := dropBaseMark base r
  if digits.isEmpty || (base == 10 && Value.maxIntegerDigits < digits.length) then none
  else
    (digits.foldlM (fun n c => (digitIn? base c).map (n * base + ·)) 0).map fun n =>
      if negative then -(n : Int) else n

/-- The integer of an `int` scalar behind its sign. -/
def magnitude? : List Char → Option Int
  | ['0'] => some 0
  | '0' :: 'b' :: ds => integerIn? 2 ds
  | '0' :: 'x' :: ds => integerIn? 16 ds
  | '0' :: ds => integerIn? 8 ('0' :: ds)
  | ds =>
    ((splitOn ':' ds).mapM (integerIn? 10)).map fun parts => parts.foldl (fun n d => n * 60 + d) 0

/-- The sign of a number and what follows it, which must not be nothing for an integer. -/
def signOf (cs : List Char) : Except Fault (Bool × List Char) :=
  if cs.isEmpty then .error (.failed .scalarEmpty) else .ok (Numeral.takeSign cs)

/-- The value of an `int` scalar. -/
def integerValue (s : String) : Except Fault Value := do
  let (negative, digits) ← signOf (withoutBars s)
  if digits.isEmpty then .error (.failed .scalarEmpty)
  else
    match magnitude? digits with
    | some n => pure (.int (if negative then -n else n))
    | none => .error (.failed .scalarText)

/-- The binary64 number that a text writes. -/
def floatOf? (cs : List Char) : Option Binary64 :=
  let cs := trimSpaces cs
  let (negative, word) := Numeral.takeSign cs
  if ["inf", "infinity"].contains (String.ofList word) then some (Binary64.infinity negative)
  else if word == "nan".toList then some Binary64.nan
  else if cs.contains ',' then none
  else (Numeral.ofChars? cs).map fun n => Binary64.ofDecimal n.toDecimal

/-- The number that a text writes, which has to be one. -/
def floatOf (cs : List Char) : Except Fault Binary64 :=
  match floatOf? cs with
  | some x => .ok x
  | none => .error (.failed .scalarText)

/-- The sum of parts in base 60, the least first, from a power of 60 on: no power may be beyond
the largest number. -/
def sumSixties (power : Nat) (sum : Binary64) : List Binary64 → Except Fault Binary64
  | [] => .ok sum
  | x :: r =>
    let weight := Binary64.ofRatio false power 1
    if weight.isFinite then sumSixties (power * 60) (sum.add (x.mul weight)) r
    else .error (.failed .scalarRange)

/-- The number of a `float` scalar behind its sign. -/
def floatMagnitude (cs : List Char) : Except Fault Binary64 :=
  if cs == ".inf".toList then .ok (Binary64.infinity false)
  else if cs == ".nan".toList then .ok Binary64.nan
  else if cs.contains ':' then do
    let parts ← (splitOn ':' cs).mapM floatOf
    sumSixties 1 (Binary64.zero false) parts.reverse
  else floatOf cs

/-- The value of a `float` scalar. -/
def floatValue (s : String) : Except Fault Value := do
  let (negative, digits) ← signOf (lower (withoutBars s))
  let x ← floatMagnitude digits
  pure (.float (if negative then x.neg else x))

/-- The value of a `bool` scalar. -/
def boolValue (s : String) : Except Fault Value :=
  let word := String.ofList (small s.toList)
  match Tag.boolWords.lookup word with
  | some b => .ok (.bool b)
  | none => .error (.failed (.scalarWord word))

/-- The value of a `timestamp` scalar. -/
def timestampValue (s : String) : Except Fault Value :=
  match Timestamp.ofChars? (Tag.dropLineFeed s.toList) with
  | some t => if t.isPossible then .ok (.other t.typeName) else .error (.failed .scalarText)
  | none => .error (.failed .scalarPattern)

/-- The value of a base-64 digit. -/
def base64Digit? (c : Char) : Option Nat :=
  let n := c.toNat
  if 65 ≤ n && n ≤ 90 then some (n - 65)
  else if 97 ≤ n && n ≤ 122 then some (n - 71)
  else if 48 ≤ n && n ≤ 57 then some (n + 4)
  else if c == '+' then some 62
  else if c == '/' then some 63
  else none

/-- The bytes of base-64 text, latest first, after `place` digits of a group of four that
leave `left` over, and `pads` marks of padding; other characters are skipped. -/
def base64From? (read : List UInt8) (place left pads : Nat) : List Char → Option (List UInt8)
  | [] => if place == 0 then some read else none
  | c :: r =>
    if c == '=' then
      if 2 ≤ place && 4 ≤ place + (pads + 1) then some read
      else base64From? read place left (if 2 ≤ place then pads + 1 else pads) r
    else
      match base64Digit? c with
      | none => base64From? read place left pads r
      | some d =>
        match place with
        | 0 => base64From? read 1 d 0 r
        | 1 => base64From? ((left * 4 + d / 16).toUInt8 :: read) 2 (d % 16) 0 r
        | 2 => base64From? ((left * 16 + d / 4).toUInt8 :: read) 3 (d % 4) 0 r
        | _ => base64From? ((left * 64 + d).toUInt8 :: read) 0 0 0 r

/-- The value of a `binary` scalar. -/
def binaryValue (s : String) : Except Fault Value :=
  if s.toList.all fun c => c.toNat < 128 then
    match base64From? [] 0 0 0 s.toList with
    | some bs => .ok (.bytes bs.reverse)
    | none => .error .malformed
  else .error .malformed

/-- The value of a scalar with a tag. -/
def scalarValue (tag : Tag) (s : String) : Except Fault Value :=
  match tag with
  | .null => .ok .null
  | .bool => boolValue s
  | .int => integerValue s
  | .float => floatValue s
  | .binary => binaryValue s
  | .timestamp => timestampValue s
  | .str => .ok (.text s)
  | _ => .error .malformed

example : Tag.ofPlain "1:30" = .int ∧ Tag.ofPlain "60:00" = .int := by decide +kernel
example : Tag.ofPlain "+.5" = .str ∧ Tag.ofPlain ".5" = .float := by decide +kernel
example : Tag.ofPlain "1e3" = .str ∧ Tag.ofPlain "1.e+3" = .float := by decide +kernel
example : Tag.ofPlain "12\n" = .int ∧ Tag.ofPlain "\n" = .str := by decide +kernel
example : Tag.ofPlain "08" = .str ∧ Tag.ofPlain "0o7" = .str := by decide +kernel

end Yaml
end Verdict
