/-
# A place in a YAML text

A cursor holds what is left of a text and its length, together with the index, the line and the
column at which that begins.  A byte order mark takes no column.

| class | characters |
| --- | --- |
| line break | LF, CR, U+0085, U+2028, U+2029; CR LF is one |
| blank | space, tab |

A text may hold the tab, the line breaks and the printable characters of the format, and no
others.
-/

import Verdict.Report.Failure

namespace Verdict
namespace Yaml

/-- Why a text has no value: it is not YAML, or one of its scalars fails. -/
inductive Fault where
  | malformed
  | failed (e : Failure)
deriving DecidableEq, Repr

/-- Whether a character may stand in a text. -/
def isAllowed (c : Char) : Bool :=
  let n := c.toNat
  n == 9 || n == 10 || n == 13 || (0x20 ≤ n && n ≤ 0x7E) || n == 0x85 || (0xA0 ≤ n && n ≤ 0xD7FF) ||
    (0xE000 ≤ n && n ≤ 0xFFFD) || 0x10000 ≤ n

/-- Whether a character breaks the line. -/
def isBreak (c : Char) : Bool :=
  c == '\n' || c == '\r' || c == '\u0085' || c == '\u2028' || c == '\u2029'

/-- Whether a character is a space or a tab. -/
def isBlank (c : Char) : Bool := c == ' ' || c == '\t'

/-- Whether what follows ends a line or is a space. -/
def endsPart : Option Char → Bool
  | none => true
  | some c => isBreak c || c == ' '

/-- Whether what follows ends a line or is blank. -/
def endsWord : Option Char → Bool
  | none => true
  | some c => isBreak c || isBlank c

/-- What is left of a text, how many characters that is, and where it begins. -/
structure Cursor where
  rest : List Char
  left : Nat
  index : Nat
  line : Nat
  column : Nat
  left_eq : left = rest.length

namespace Cursor

/-- The beginning of a text. -/
def start (cs : List Char) : Cursor := ⟨cs, cs.length, 0, 0, 0, rfl⟩

/-- The next character. -/
def peek? (c : Cursor) : Option Char := c.rest.head?

/-- The character after the next. -/
def second? (c : Cursor) : Option Char := c.rest.tail.head?

/-- The cursor behind the next character. -/
def advance (c : Cursor) : Cursor :=
  match h : c.rest with
  | [] => c
  | ch :: r =>
    have left_eq : c.left - 1 = r.length := by rw [c.left_eq, h]; rfl
    if isBreak ch && !(ch == '\r' && r.head? == some '\n') then
      ⟨r, c.left - 1, c.index + 1, c.line + 1, 0, left_eq⟩
    else
      ⟨r, c.left - 1, c.index + 1, c.line, if ch == '\uFEFF' then c.column else c.column + 1,
        left_eq⟩

/-- The cursor a number of characters further on. -/
def advanceBy : Nat → Cursor → Cursor
  | 0, c => c
  | n + 1, c => advanceBy n c.advance

/-- The characters of a class at the front. -/
def taken (p : Char → Bool) (c : Cursor) : List Char := c.rest.takeWhile p

/-- The cursor behind the characters of a class at the front. -/
def skip (p : Char → Bool) (c : Cursor) : Cursor := c.advanceBy (c.taken p).length

/-- The line break at the front, as it counts in a scalar, and the cursor behind it. -/
def takeBreak? (c : Cursor) : Option (Char × Cursor) :=
  match c.rest with
  | '\r' :: '\n' :: _ => some ('\n', c.advanceBy 2)
  | ch :: _ =>
    if ch == '\u2028' || ch == '\u2029' then some (ch, c.advance)
    else if isBreak ch then some ('\n', c.advance)
    else none
  | [] => none

/-- Whether a document ends or begins here: three dashes or points that stand alone. -/
def atSeparator (c : Cursor) : Bool :=
  match c.rest with
  | '-' :: '-' :: '-' :: r => endsWord r.head?
  | '.' :: '.' :: '.' :: r => endsWord r.head?
  | _ => false

/-- The cursor behind a comment, if one begins here. -/
def skipComment (c : Cursor) : Cursor :=
  if c.peek? == some '#' then c.skip fun ch => !isBreak ch else c

/-- The cursor on the next line, where only spaces and a comment are left of this one. -/
def nextLine (c : Cursor) : Except Fault Cursor :=
  let c := (c.skip (· == ' ')).skipComment
  match c.takeBreak? with
  | some (_, c) => .ok c
  | none => if c.peek?.isNone then .ok c else .error .malformed

end Cursor
end Yaml
end Verdict
