/-
# What a JSON text writes

One value has many JSON texts.  They differ in their blanks and in the characters of texts, which may
be escaped or not.

| part | written |
| --- | --- |
| character of a text | as itself, or after a backslash by a letter, or by one or two code units |
| text | its characters between quotes |
| integer | its decimal text |
| binary64 number | its shortest text, or `NaN`, `Infinity` or `-Infinity` |
| list | its items with commas between them, in brackets |
| object | its members with commas between them, each a name, a colon and a value, in braces |

Blanks may stand around each item, name and value.  What the library writes itself is one of these texts
(`Json.writes_written`).
-/

import Verdict.Json.Printer
import Verdict.Json.Token

namespace Verdict
namespace Json

open Text

/-- Whether there is nothing but blanks. -/
def Blanks (cs : List Char) : Prop := ∀ c ∈ cs, isBlank c = true

/-- Whether characters of some kind stand between blanks. -/
def Padded (P : List Char → Prop) (cs : List Char) : Prop :=
  ∃ before inside after, Blanks before ∧ P inside ∧ Blanks after ∧ cs = before ++ (inside ++ after)

/-- Whether characters write one character of a text. -/
inductive WritesChar : Char → List Char → Prop
  | plain {c : Char} (hcontrol : ¬ c.toNat < 32) (hquote : c ≠ '\x22') (hbackslash : c ≠ '\\') :
      WritesChar c [c]
  | letter {e c : Char} (h : escapes.lookup e = some c) : WritesChar c ['\\', e]
  | unit {a₁ a₂ a₃ a₄ c : Char} (h : unit? a₁ a₂ a₃ a₄ = some c.toNat) :
      WritesChar c ['\\', 'u', a₁, a₂, a₃, a₄]
  | pair {a₁ a₂ a₃ a₄ b₁ b₂ b₃ b₄ : Char} {high low : Nat} (hh : isHighSurrogate high = true)
      (hl : isLowSurrogate low = true) (ha : unit? a₁ a₂ a₃ a₄ = some high)
      (hb : unit? b₁ b₂ b₃ b₄ = some low) :
      WritesChar (pairChar high low) ['\\', 'u', a₁, a₂, a₃, a₄, '\\', 'u', b₁, b₂, b₃, b₄]

/-- Whether characters write those of a text, one after the other. -/
inductive WritesChars : List Char → List Char → Prop
  | nil : WritesChars [] []
  | cons {c : Char} {s cs r : List Char} (first : WritesChar c cs) (rest : WritesChars s r) :
      WritesChars (c :: s) (cs ++ r)

/-- Whether characters write a text between quotes. -/
def WritesText (s : String) (cs : List Char) : Prop :=
  ∃ inside, WritesChars s.toList inside ∧ cs = '\x22' :: (inside ++ ['\x22'])

mutual

/-- Whether characters write a value. -/
def Writes : Value → List Char → Prop
  | .null, cs => cs = "null".toList
  | .bool b, cs => cs = (if b then "true" else "false").toList
  | .int n, cs => cs = (integerText n).toList
  | .float x, cs => cs = writtenFloat x
  | .text s, cs => WritesText s cs
  | .list items, cs => ∃ inside, WritesItems items inside ∧ cs = '[' :: (inside ++ [']'])
  | .object fields, cs =>
    ∃ inside, WritesMembers fields inside ∧ cs = '\x7b' :: (inside ++ ['\x7d'])
  | _, _ => False

/-- Whether characters write the items of a list. -/
def WritesItems : List Value → List Char → Prop
  | [], cs => Blanks cs
  | [v], cs => Padded (Writes v) cs
  | v :: r, cs =>
    ∃ first rest, Padded (Writes v) first ∧ WritesItems r rest ∧ cs = first ++ ',' :: rest

/-- Whether characters write the members of an object. -/
def WritesMembers : List (String × Value) → List Char → Prop
  | [], cs => Blanks cs
  | [(k, v)], cs =>
    ∃ name value, Padded (WritesText k) name ∧ Padded (Writes v) value ∧ cs = name ++ ':' :: value
  | (k, v) :: r, cs =>
    ∃ name value rest, Padded (WritesText k) name ∧ Padded (Writes v) value ∧
      WritesMembers r rest ∧ cs = name ++ ':' :: (value ++ ',' :: rest)

end

/-! ### What the library writes -/

theorem blanks_nil : Blanks [] := fun _ h => absurd h List.not_mem_nil

theorem padded_self {P : List Char → Prop} {cs : List Char} (h : P cs) : Padded P cs :=
  ⟨[], cs, [], blanks_nil, h, blanks_nil, by rw [List.append_nil]; rfl⟩

theorem writesChar_writtenChar (c : Char) : WritesChar c (writtenChar c) := by
  have hescape : escapes.lookup '\x22' = some '\x22' ∧ escapes.lookup '\\' = some '\\' := by decide
  have hunits : ∀ n < 32, ∃ a₁ a₂ a₃ a₄, hex 4 n = [a₁, a₂, a₃, a₄] ∧
      unit? a₁ a₂ a₃ a₄ = some n := by
    intro n hn
    refine ⟨_, _, _, _, rfl, ?_⟩
    revert n
    decide
  unfold writtenChar
  split
  · next h =>
    rw [Bool.or_eq_true, beq_iff_eq, beq_iff_eq] at h
    rcases h with rfl | rfl
    · exact .letter hescape.1
    · exact .letter hescape.2
  · next h =>
    rw [Bool.or_eq_true, beq_iff_eq, beq_iff_eq, not_or] at h
    split
    · next hcontrol =>
      obtain ⟨a₁, a₂, a₃, a₄, hhex, hunit⟩ := hunits c.toNat hcontrol
      rw [hhex]
      exact .unit hunit
    · next hcontrol => exact .plain hcontrol h.1 h.2

theorem writesText_writtenText (s : String) : WritesText s (writtenText s) := by
  have hchars : ∀ cs : List Char, WritesChars cs (cs.flatMap writtenChar) := by
    intro cs
    induction cs with
    | nil => exact .nil
    | cons c r ih => exact .cons (writesChar_writtenChar c) ih
  exact ⟨_, hchars s.toList, rfl⟩

mutual

/-- **The library writes a value by one of its JSON texts,** if JSON knows the value. -/
theorem writes_written : ∀ v : Value, v.isJson = true → Writes v (written v)
  | .null, _ | .bool _, _ | .int _, _ | .float _, _ => by rw [Writes, written]
  | .text s, _ => writesText_writtenText s
  | .list items, h => ⟨_, writesItems_writtenItems items h, rfl⟩
  | .object fields, h => ⟨_, writesMembers_writtenMembers fields h, rfl⟩

theorem writesItems_writtenItems :
    ∀ items : List Value, Value.areJson items = true → WritesItems items (writtenItems items)
  | [], _ => blanks_nil
  | [v], h => by
      rw [Value.areJson, Bool.and_eq_true] at h
      exact padded_self (writes_written v h.1)
  | v :: w :: r, h => by
      rw [Value.areJson, Bool.and_eq_true] at h
      exact ⟨_, _, padded_self (writes_written v h.1), writesItems_writtenItems (w :: r) h.2, rfl⟩

theorem writesMembers_writtenMembers : ∀ fields : List (String × Value),
    Value.membersJson fields = true → WritesMembers fields (writtenMembers fields)
  | [], _ => blanks_nil
  | [(k, v)], h => by
      rw [Value.membersJson, Bool.and_eq_true] at h
      exact ⟨_, _, padded_self (writesText_writtenText k), padded_self (writes_written v h.1), rfl⟩
  | (k, v) :: f :: r, h => by
      rw [Value.membersJson, Bool.and_eq_true] at h
      refine ⟨_, _, _, padded_self (writesText_writtenText k), padded_self (writes_written v h.1),
        writesMembers_writtenMembers (f :: r) h.2, ?_⟩
      rw [writtenMembers, List.append_assoc]
      · rfl
      · exact nofun

end

end Json
end Verdict
