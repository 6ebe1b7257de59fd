/-
# JSON tokens

A JSON text is a sequence of tokens with blanks between them.

| token | written |
| --- | --- |
| bracket, comma, colon | as itself |
| text | between double quotes, with escapes; no control character stands in it |
| number | a whole part without leading zeros, then a fraction and an exponent, if any |
| constant | `null` `true` `false` `NaN` `Infinity` `-Infinity` |

Blanks are the space, the tab, the line feed and the carriage return.  Two escapes that
make up a surrogate pair stand for one character.
-/

import Verdict.Decimal.Numeral
import Verdict.Text.Encoding
import Verdict.Text.Letters
import Verdict.Value.Basic

namespace Verdict
namespace Json

open Text

/-- One token of a JSON text. -/
inductive Token where
  | openList
  | closeList
  | openObject
  | closeObject
  | comma
  | colon
  | text (s : String)
  | number (n : Numeral)
  | constant (v : Value)

/-- Whether a character may stand between tokens. -/
def isBlank (c : Char) : Bool := c == ' ' || c == '\t' || c == '\n' || c == '\r'

/-- The constants and how they are written. -/
def constants : List (List Char × Value) :=
  [("null".toList, .null), ("true".toList, .bool true), ("false".toList, .bool false),
    ("NaN".toList, .float Binary64.nan), ("Infinity".toList, .float (Binary64.infinity false)),
    ("-Infinity".toList, .float (Binary64.infinity true))]

/-- The constant at the front of a text, and what follows it. -/
def takeConstant? (cs : List Char) : Option (Value × List Char) :=
  (constants.find? fun p => p.1.isPrefixOf cs).map fun p => (p.2, cs.drop p.1.length)

/-- The values of the decimal digits at the front of a text. -/
def digitsOf (cs : List Char) : List Nat := (cs.takeWhile isAsciiDigit).map fun c => c.toNat - 48

/-- What follows the decimal digits at the front of a text. -/
def afterDigits (cs : List Char) : List Char := cs.dropWhile isAsciiDigit

/-- The whole part at the front of a text: a zero, or digits that start with another. -/
def takeWhole? : List Char → Option (List Nat × List Char)
  | '0' :: r => some ([0], r)
  | c :: r => if isAsciiDigit c then some (digitsOf (c :: r), afterDigits r) else none
  | [] => none

/-- The fraction at the front of a text, if there is one. -/
def takeFraction : List Char → Option (List Nat) × List Char
  | '.' :: r =>
    if (digitsOf r).isEmpty then (none, '.' :: r) else (some (digitsOf r), afterDigits r)
  | cs => (none, cs)

/-- The sign of an exponent, and what follows it. -/
def takeSign : List Char → Bool × List Char
  | '-' :: r => (true, r)
  | '+' :: r => (false, r)
  | cs => (false, cs)

/-- The exponent at the front of a text, if there is one. -/
def takeExponent : List Char → Option Int × List Char
  | [] => (none, [])
  | c :: r =>
    let (negative, digits) := takeSign r
    if (c == 'e' || c == 'E') && !(digitsOf digits).isEmpty then
      let n : Int := ofDigits (digitsOf digits)
      (some (if negative then -n else n), afterDigits digits)
    else (none, c :: r)

/-- The number without a sign at the front of a text. -/
def takeUnsigned? (negative : Bool) (cs : List Char) : Option (Numeral × List Char) :=
  (takeWhole? cs).map fun (whole, r) =>
    let (fraction, r) := takeFraction r
    let (exponent, r) := takeExponent r
    (⟨negative, whole, fraction, exponent⟩, r)

/-- The number at the front of a text. -/
def takeNumber? : List Char → Option (Numeral × List Char)
  | '-' :: r => takeUnsigned? true r
  | cs => takeUnsigned? false cs

/-- The character that a one-letter escape stands for. -/
def escapes : List (Char × Char) :=
  [('\x22', '\x22'), ('\\', '\\'), ('/', '/'), ('b', '\x08'), ('f', '\x0c'), ('n', '\n'),
    ('r', '\r'), ('t', '\t')]

/-- The code unit that four hexadecimal digits write. -/
def unit? (a b c d : Char) : Option Nat :=
  match hexDigit? a, hexDigit? b, hexDigit? c, hexDigit? d with
  | some w, some x, some y, some z => some (((w * 16 + x) * 16 + y) * 16 + z)
  | _, _, _, _ => none

/-- The character of one code unit.  A surrogate alone has none of its own, and U+FFFD stands for it. -/
def unitChar (n : Nat) : Char := (charOf? n).getD '\uFFFD'

/-- The character after `\u`, and what follows its digits. -/
def takeUnit? : List Char → Option (Char × List Char)
  | a :: b :: c :: d :: r =>
    (unit? a b c d).map fun high =>
      match r with
      | '\\' :: 'u' :: e :: f :: g :: h :: r' =>
        match unit? e f g h with
        | some low =>
          if isHighSurrogate high && isLowSurrogate low then (pairChar high low, r')
          else (unitChar high, r)
        | none => (unitChar high, r)
      | _ => (unitChar high, r)
  | _ => none

/-- One character of a text between quotes, and what follows it. -/
def takeChar? : List Char → Option (Char × List Char)
  | '\\' :: 'u' :: r => takeUnit? r
  | '\\' :: c :: r => (escapes.lookup c).map fun e => (e, r)
  | ['\\'] => none
  | c :: r => if c.toNat < 32 then none else some (c, r)
  | [] => none

theorem length_afterDigits_le (cs : List Char) : (afterDigits cs).length ≤ cs.length :=
  (List.dropWhile_suffix _).length_le

theorem length_takeWhole?_lt {cs r : List Char} {ds : List Nat} (h : takeWhole? cs = some (ds, r)) :
    r.length < cs.length := by
  unfold takeWhole? at h
  split at h
  · simp_all
  · next c s _ =>
    split at h
    · simp only [Option.some.injEq, Prod.mk.injEq] at h
      have := length_afterDigits_le s
      rw [← h.2, List.length_cons]
      omega
    · simp at h
  · simp at h

theorem length_takeFraction_le (cs : List Char) : (takeFraction cs).2.length ≤ cs.length := by
  unfold takeFraction
  split
  · next r =>
    have := length_afterDigits_le r
    split
    · exact Nat.le_refl _
    · exact Nat.le_succ_of_le this
  · exact Nat.le_refl _

theorem length_takeSign_le (cs : List Char) : (takeSign cs).2.length ≤ cs.length := by
  unfold takeSign
  split <;> simp

theorem length_takeExponent_le (cs : List Char) : (takeExponent cs).2.length ≤ cs.length := by
  unfold takeExponent
  split
  · simp
  · next c r =>
    have h₁ := length_takeSign_le r
    have h₂ := length_afterDigits_le (takeSign r).2
    dsimp only
    split
    · simp; omega
    · simp

theorem length_takeUnsigned?_lt {b : Bool} {cs r : List Char} {n : Numeral}
    (h : takeUnsigned? b cs = some (n, r)) : r.length < cs.length := by
  unfold takeUnsigned? at h
  simp only [Option.map_eq_some_iff, Prod.exists, Prod.mk.injEq] at h
  obtain ⟨ds, s, hs, -, rfl⟩ := h
  have h₁ := length_takeWhole?_lt hs
  have h₂ := length_takeFraction_le s
  have h₃ := length_takeExponent_le (takeFraction s).2
  omega

theorem length_takeNumber?_lt {cs r : List Char} {n : Numeral} (h : takeNumber? cs = some (n, r)) :
    r.length < cs.length := by
  unfold takeNumber? at h
  split at h
  · have := length_takeUnsigned?_lt h
    simp; omega
  · exact length_takeUnsigned?_lt h

theorem length_takeUnit?_lt {cs r : List Char} {c : Char} (h : takeUnit? cs = some (c, r)) :
    r.length < cs.length := by
  unfold takeUnit? at h
  split at h
  · next t =>
    simp only [Option.map_eq_some_iff] at h
    obtain ⟨u, -, h⟩ := h
    have hr : r.length ≤ t.length := by
      split at h
      · split at h
        · split at h
          · obtain ⟨-, rfl⟩ := Prod.mk.inj h
            simp only [List.length_cons]
            omega
          · exact (Prod.mk.inj h).2 ▸ Nat.le_refl _
        · exact (Prod.mk.inj h).2 ▸ Nat.le_refl _
      · exact (Prod.mk.inj h).2 ▸ Nat.le_refl _
    simp only [List.length_cons]
    omega
  · simp at h

theorem length_takeChar?_lt {cs r : List Char} {c : Char} (h : takeChar? cs = some (c, r)) :
    r.length < cs.length := by
  unfold takeChar? at h
  split at h
  · have := length_takeUnit?_lt h
    simp; omega
  · simp only [Option.map_eq_some_iff, Prod.mk.injEq] at h
    obtain ⟨_, _, _, rfl⟩ := h
    simp only [List.length_cons]
    omega
  · simp at h
  · split at h
    · simp at h
    · simp_all
  · simp at h

/-- The rest of a text between quotes after the characters `read`, latest first, and what
follows its closing quote. -/
def takeText (read : List Char) (cs : List Char) : Option (List Char × List Char) :=
  match cs with
  | '\x22' :: r => some (read.reverse, r)
  | cs =>
    match _h : takeChar? cs with
    | some (c, r) => takeText (c :: read) r
    | none => none
termination_by cs.length
decreasing_by exact length_takeChar?_lt ‹_›

/-- The token at the front of a text, and what follows it. -/
def takeToken? : List Char → Option (Token × List Char)
  | '[' :: r => some (.openList, r)
  | ']' :: r => some (.closeList, r)
  | '\x7b' :: r => some (.openObject, r)
  | '\x7d' :: r => some (.closeObject, r)
  | ',' :: r => some (.comma, r)
  | ':' :: r => some (.colon, r)
  | '\x22' :: r => (takeText [] r).map fun p => (.text (String.ofList p.1), p.2)
  | cs =>
    match takeConstant? cs with
    | some (v, r) => some (.constant v, r)
    | none => (takeNumber? cs).map fun p => (.number p.1, p.2)

theorem length_takeText_lt {read cs s r : List Char} (h : takeText read cs = some (s, r)) :
    r.length < cs.length := by
  fun_induction takeText read cs with
  | case1 read r' => simp_all
  | case2 read cs _ c r' hc ih =>
    have h₁ := length_takeChar?_lt hc
    have h₂ := ih h
    omega
  | case3 => simp at h

theorem length_takeConstant?_lt {cs r : List Char} {v : Value}
    (h : takeConstant? cs = some (v, r)) : r.length < cs.length := by
  unfold takeConstant? at h
  simp only [Option.map_eq_some_iff, Prod.mk.injEq] at h
  obtain ⟨p, hp, -, rfl⟩ := h
  have h₁ : p ∈ constants := List.mem_of_find?_eq_some hp
  have h₂ := List.find?_some hp
  have h₃ : p.1.length ≤ cs.length := (List.isPrefixOf_iff_prefix.1 h₂).length_le
  have h₄ : 0 < p.1.length := by
    simp only [constants, List.mem_cons, List.not_mem_nil, or_false] at h₁
    rcases h₁ with rfl | rfl | rfl | rfl | rfl | rfl <;> decide
  rw [List.length_drop]
  omega

/-- A token takes at least one character. -/
theorem length_takeToken?_lt {cs r : List Char} {t : Token} (h : takeToken? cs = some (t, r)) :
    r.length < cs.length := by
  unfold takeToken? at h
  split at h
  case h_7 =>
    simp only [Option.map_eq_some_iff, Prod.mk.injEq] at h
    obtain ⟨⟨s, r'⟩, h, -, rfl⟩ := h
    have := length_takeText_lt h
    simp; omega
  case h_8 =>
    split at h
    · next hc =>
      simp only [Option.some.injEq, Prod.mk.injEq] at h
      rw [← h.2]
      exact length_takeConstant?_lt hc
    · simp only [Option.map_eq_some_iff, Prod.mk.injEq] at h
      obtain ⟨⟨n, r'⟩, h, -, rfl⟩ := h
      exact length_takeNumber?_lt h
  all_goals
    simp only [Option.some.injEq, Prod.mk.injEq] at h
    simp [h.2]

end Json
end Verdict
