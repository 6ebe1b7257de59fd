/-
# The texts of YAML scalars

| style | written | line breaks |
| --- | --- | --- |
| plain | without marks | folded |
| single-quoted | between `'`, which is doubled inside | folded |
| double-quoted | between double quotes, with escapes | folded |
| literal | indented after a bar | kept |
| folded | indented after `>` | folded, unless next to an indented line |

To fold is to turn a single break into a space, and to drop the first of several.  Each
reader takes a number that bounds its steps; the length of the text always suffices.
-/

import Verdict.Text.Surrogate
import Verdict.Yaml.Cursor

namespace Verdict
namespace Yaml

open Text

/-- What a folded line break leaves, before the breaks that follow it. -/
def folded (first : Char) (more : List Char) : List Char :=
  if first != '\n' then first :: more else if more.isEmpty then [' '] else more

/-! ### Quoted scalars -/

/-- The breaks of the empty lines from here on, latest first, and what follows them. -/
def quotedBreaks : Nat → List Char → Cursor → Except Fault (List Char × Cursor)
  | 0, breaks, c => .ok (breaks, c)
  | n + 1, breaks, c =>
    if c.atSeparator then .error .malformed
    else
      let c := c.skip isBlank
      match c.takeBreak? with
      | some (b, c) => quotedBreaks n (b :: breaks) c
      | none => .ok (breaks, c)

/-- The text that the blanks and the line break here stand for, and what follows them. -/
def quotedSpace (n : Nat) (c : Cursor) : Except Fault (List Char × Cursor) :=
  let blanks := c.taken isBlank
  let c := c.skip isBlank
  match c.takeBreak? with
  | some (b, c) => (quotedBreaks n [] c).map fun (breaks, c) => (folded b breaks.reverse, c)
  | none => if c.peek?.isNone then .error .malformed else .ok (blanks, c)

/-- The escapes of one letter. -/
def escapes : List (Char × Char) :=
  [('0', '\x00'), ('a', '\x07'), ('b', '\x08'), ('t', '\t'), ('\t', '\t'), ('n', '\n'),
    ('v', '\x0b'), ('f', '\x0c'), ('r', '\r'), ('e', '\x1b'), (' ', ' '), ('\x22', '\x22'),
    ('\\', '\\'), ('/', '/'), ('N', '\u0085'), ('_', '\u00a0'), ('L', '\u2028'), ('P', '\u2029')]

/-- The escapes by code point, with their numbers of digits. -/
def codeEscapes : List (Char × Nat) := [('x', 2), ('u', 4), ('U', 8)]

/-- Whether no escape in a text writes a surrogate: two of them make no pair here. -/
def isFreeOfSurrogates (cs : List Char) : Bool :=
  (escapedNumbers codeEscapes cs).all fun n => !n.any isSurrogate

/-- The character of a code point.  A surrogate has none, and U+FFFD stands for it. -/
def codeChar (n : Nat) : Except Fault Char :=
  if 0x80000000 ≤ n then .error (.failed .escapeRange)
  else if 0x110000 ≤ n then .error (.failed .scalarText)
  else .ok ((charOf? n).getD '\uFFFD')

/-- The text of the escape whose backslash is behind the cursor, and what follows it. -/
def takeEscape (n : Nat) (c : Cursor) : Except Fault (List Char × Cursor) :=
  match c.peek? with
  | none => .error .malformed
  | some ch =>
    match escapes.lookup ch, codeEscapes.lookup ch with
    | some e, _ => .ok ([e], c.advance)
    | none, some width =>
      let digits := c.advance.rest.take width
      match if digits.length == width then ofHex? digits else none with
      | some code => (codeChar code).map fun e => ([e], c.advanceBy (width + 1))
      | none => .error .malformed
    | none, none =>
      match c.takeBreak? with
      | some (_, c) => (quotedBreaks n [] c).map fun (breaks, c) => (breaks.reverse, c)
      | none => .error .malformed

/-- The rest of a quoted scalar after the characters `read`, latest first, and what follows
its closing quote. -/
def quotedFrom (double : Bool) : Nat → List Char → Cursor → Except Fault (List Char × Cursor)
  | 0, _, _ => .error .malformed
  | n + 1, read, c =>
    match c.peek? with
    | none => .error .malformed
    | some ch =>
      if ch == '\x27' && !double then
        if c.second? == some '\x27' then quotedFrom double n ('\x27' :: read) (c.advanceBy 2)
        else .ok (read.reverse, c.advance)
      else if ch == '\x22' && double then .ok (read.reverse, c.advance)
      else if ch == '\\' && double then
        match takeEscape n c.advance with
        | .ok (cs, c) => quotedFrom double n (cs.reverse ++ read) c
        | .error e => .error e
      else if isBlank ch || isBreak ch then
        match quotedSpace n c with
        | .ok (cs, c) => quotedFrom double n (cs.reverse ++ read) c
        | .error e => .error e
      else quotedFrom double n (ch :: read) c.advance

/-- The text of a quoted scalar, and what follows it. -/
def takeQuoted (double : Bool) (c : Cursor) : Except Fault (List Char × Cursor) :=
  quotedFrom double c.left [] c.advance

/-! ### Plain scalars -/

/-- Whether a plain scalar ends before what is left of a text. -/
def endsPlain (flow : Bool) : List Char → Bool
  | [] => true
  | ch :: r =>
    isBreak ch || isBlank ch || (flow && ",?[]\x7b\x7d".toList.contains ch) ||
      (ch == ':' && (endsWord r.head? ||
        (flow && (r.head?.all fun next => ",[]\x7b\x7d".toList.contains next))))

/-- The part of a plain scalar up to the next blank or its end, latest first. -/
def plainPart (flow : Bool) (read : List Char) : List Char → List Char
  | [] => read
  | ch :: r => if endsPlain flow (ch :: r) then read else plainPart flow (ch :: read) r

/-- What stands between two parts of a plain scalar: its text, which is empty where the
scalar ends, whether it breaks the line, and what follows it. -/
structure Gap where
  text : List Char
  broken : Bool
  next : Cursor

/-- The breaks and spaces from here on, or none where a document ends among them. -/
def plainBreaks : Nat → List Char → Cursor → Option (List Char) × Cursor
  | 0, breaks, c => (some breaks, c)
  | n + 1, breaks, c =>
    if c.peek? == some ' ' then plainBreaks n breaks c.advance
    else
      match c.takeBreak? with
      | some (b, c) => if c.atSeparator then (none, c) else plainBreaks n (b :: breaks) c
      | none => (some breaks, c)

/-- The gap at the front. -/
def takeGap (n : Nat) (c : Cursor) : Gap :=
  let spaces := c.taken (· == ' ')
  let c := c.skip (· == ' ')
  match c.takeBreak? with
  | none => ⟨spaces, false, c⟩
  | some (b, c) =>
    if c.atSeparator then ⟨[], true, c⟩
    else
      match plainBreaks n [] c with
      | (some breaks, c) => ⟨folded b breaks.reverse, true, c⟩
      | (none, c) => ⟨[], true, c⟩

/-- The rest of a plain scalar after the characters `read`, latest first, and a gap; then
whether a line break is the last thing in it, and what follows it. -/
def plainFrom (flow : Bool) (indent : Int) : Nat → List Char → Gap → List Char × Bool × Cursor
  | 0, read, gap => (read.reverse, gap.broken, gap.next)
  | n + 1, read, gap =>
    let c := gap.next
    let part := plainPart flow [] c.rest
    if c.peek? == some '#' || part.isEmpty then (read.reverse, gap.broken, c)
    else
      let read := part ++ gap.text.reverse ++ read
      let gap := takeGap n (c.advanceBy part.length)
      if gap.text.isEmpty || (!flow && gap.next.column < indent) then
        (read.reverse, gap.broken, gap.next)
      else plainFrom flow indent n read gap

/-- The text of a plain scalar at an indentation, whether it ends with a line break, and
what follows it. -/
def takePlain (flow : Bool) (indent : Int) (c : Cursor) : List Char × Bool × Cursor :=
  plainFrom flow indent (c.left + 1) [] ⟨[], false, c⟩

/-! ### Block scalars -/

/-- What happens to the line breaks at the end of a block scalar. -/
inductive Chomping where
  | clip
  | strip
  | keep
deriving DecidableEq, Repr

/-- The chomping that a mark asks for. -/
def chomping? : Option Char → Option Chomping
  | some '+' => some .keep
  | some '-' => some .strip
  | _ => none

/-- The indentation that a digit asks for: a zero is refused. -/
def increment? (ch : Option Char) : Except Fault (Option Nat) :=
  match ch with
  | some d =>
    if d == '0' then .error .malformed
    else if '1' ≤ d && d ≤ '9' then .ok (some (d.toNat - 48))
    else .ok none
  | none => .ok none

/-- The marks after the sign of a block scalar, in either order. -/
def takeMarks (c : Cursor) : Except Fault (Chomping × Option Nat × Cursor) := do
  let marked : Chomping × Option Nat × Cursor ←
    match chomping? c.peek? with
    | some chomp => do
      let c := c.advance
      let inc ← increment? c.peek?
      pure (chomp, inc, if inc.isSome then c.advance else c)
    | none => do
      let inc ← increment? c.peek?
      let c := if inc.isSome then c.advance else c
      match if inc.isSome then chomping? c.peek? else none with
      | some chomp => pure (chomp, inc, c.advance)
      | none => pure (.clip, inc, c)
  if endsPart marked.2.2.peek? then pure marked else .error .malformed

/-- The breaks and spaces before the first line, the breaks latest first, and the furthest
column that the spaces reach. -/
def leadingBreaks : Nat → List Char → Nat → Cursor → List Char × Nat × Cursor
  | 0, breaks, widest, c => (breaks, widest, c)
  | n + 1, breaks, widest, c =>
    if c.peek? == some ' ' then leadingBreaks n breaks (max widest c.advance.column) c.advance
    else
      match c.takeBreak? with
      | some (b, c) => leadingBreaks n (b :: breaks) widest c
      | none => (breaks, widest, c)

/-- The cursor behind the spaces here, up to an indentation. -/
def skipIndent (indent : Nat) (c : Cursor) : Cursor :=
  c.advanceBy (min (indent - c.column) (c.taken (· == ' ')).length)

/-- The breaks of the empty lines from here on, latest first, and what follows them. -/
def blockBreaks (indent : Nat) : Nat → List Char → Cursor → List Char × Cursor
  | 0, breaks, c => (breaks, c)
  | n + 1, breaks, c =>
    let c := skipIndent indent c
    match c.takeBreak? with
    | some (b, c) => blockBreaks indent n (b :: breaks) c
    | none => (breaks, c)

/-- What stands between two lines of a block scalar. -/
def joint (fold : Bool) (first : List Char) (breaks : List Char) (before after : Option Char) :
    List Char :=
  let flush (ch : Option Char) : Bool := ch.all fun ch => !isBlank ch
  if fold && first == ['\n'] && flush before && flush after then
    if breaks.isEmpty then [' '] else []
  else first

/-- The lines of a block scalar, latest character first, from a line at its indentation on;
then the break that ends the last line, the breaks after it, and what follows. -/
def blockLines (fold : Bool) (indent : Nat) :
    Nat → List Char → Cursor → List Char × List Char × List Char × Cursor
  | 0, read, c => (read, [], [], c)
  | n + 1, read, c =>
    let before := c.peek?
    let line := c.taken fun ch => !isBreak ch
    let c := c.advanceBy line.length
    let read := line.reverse ++ read
    let (first, c) := match c.takeBreak? with
      | some (b, c) => ([b], c)
      | none => ([], c)
    let (breaks, c) := blockBreaks indent n [] c
    if c.column == indent && c.peek?.isSome then
      let between := joint fold first breaks before c.peek?
      blockLines fold indent n (breaks ++ between.reverse ++ read) c
    else (read, first, breaks, c)

/-- The text of a block scalar inside an indentation, and what follows it. -/
def takeBlock (fold : Bool) (outer : Int) (c : Cursor) : Except Fault (List Char × Cursor) := do
  let n := c.left
  let (chomp, increment, c) ← takeMarks c.advance
  let c ← c.nextLine
  let least := (max (outer + 1) 1).toNat
  let (breaks, indent, c) := match increment with
    | none =>
      let (breaks, widest, c) := leadingBreaks n [] 0 c
      (breaks, max least widest, c)
    | some k =>
      let indent := least + k - 1
      let (breaks, c) := blockBreaks indent n [] c
      (breaks, indent, c)
  let (read, first, trailing, c) :=
    if c.column == indent && c.peek?.isSome then blockLines fold indent n breaks c
    else ([], [], breaks, c)
  let text := read.reverse ++ match chomp with
    | .strip => []
    | .clip => first
    | .keep => first ++ trailing.reverse
  pure (text, c)

end Yaml
end Verdict
