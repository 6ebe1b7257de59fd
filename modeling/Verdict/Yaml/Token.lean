/-
# YAML tokens

The tokens of a text carry its structure: where block collections begin and end follows from
the indentation, and where keys begin from the colons after them.

A simple key is one that no `?` announces.  Whatever may be one is remembered until a colon
shows that it is, or until its line ends or 1024 characters have passed; a key that has to be
there and is not makes the text malformed.  A token is certain once nothing that may be a key
stands before it, for a colon puts tokens in front of the key; a fault in the text hides the
tokens that are not certain yet.
-/

import Verdict.Value.Lenient
import Verdict.Yaml.Scalar

namespace Verdict
namespace Yaml

/-- One token of a text. -/
inductive Token where
  | version (major : Nat)
  | tagHandle (handle target : String)
  | reserved
  | beginDocument
  | endDocument
  | blockSequence
  | blockMapping
  | endBlock
  | openSequence
  | closeSequence
  | openMapping
  | closeMapping
  | flowEntry
  | blockEntry
  | key
  | value
  | reference (name : String)
  | anchor (name : String)
  | tag (handle : Option String) (suffix : String)
  | scalar (text : String) (plain : Bool)
deriving DecidableEq, Repr

/-! ### Names, tags and directives -/

/-- Whether a character may stand in a name. -/
def isNameChar (c : Char) : Bool :=
  ('0' ≤ c && c ≤ '9') || ('A' ≤ c && c ≤ 'Z') || ('a' ≤ c && c ≤ 'z') || c == '-' || c == '_'

/-- Whether a character may stand in the address of a tag. -/
def isAddressChar (c : Char) : Bool := isNameChar c || ";/?:@&=+$,.!~*\x27()[]".toList.contains c

/-- The name at the front, and what follows it. -/
def takeName (c : Cursor) : Except Fault (String × Cursor) :=
  let name := c.taken isNameChar
  if name.isEmpty then .error .malformed else .ok (String.ofList name, c.advanceBy name.length)

/-- The bytes of the percent escapes at the front, and what follows them. -/
def takePercents : Nat → Cursor → Except Fault (List UInt8 × Cursor)
  | 0, c => .ok ([], c)
  | n + 1, c =>
    match c.rest with
    | '%' :: a :: b :: _ =>
      match Text.hexDigit? a, Text.hexDigit? b with
      | some x, some y =>
        (takePercents n (c.advanceBy 3)).map fun (bs, c) => ((x * 16 + y).toUInt8 :: bs, c)
      | _, _ => .error .malformed
    | '%' :: _ => .error .malformed
    | _ => .ok ([], c)

/-- The address at the front after the characters `read`, and what follows it. -/
def addressFrom : Nat → List Char → Cursor → Except Fault (List Char × Cursor)
  | 0, read, c => .ok (read, c)
  | n + 1, read, c =>
    let part := c.taken isAddressChar
    let c := c.advanceBy part.length
    if c.peek? == some '%' then do
      let (bs, c) ← takePercents n c
      match Text.Utf8.decode bs with
      | some cs => addressFrom n (read ++ part ++ cs) c
      | none => .error .malformed
    else .ok (read ++ part, c)

/-- The address at the front, which is not empty, and what follows it. -/
def takeAddress (c : Cursor) : Except Fault (String × Cursor) :=
  if c.peek?.any fun ch => isAddressChar ch || ch == '%' then
    (addressFrom (c.left + 1) [] c).map fun (cs, c) => (String.ofList cs, c)
  else .error .malformed

/-- The handle at the front: one exclamation mark, or a name between two. -/
def takeHandle (c : Cursor) : Except Fault (String × Cursor) :=
  if c.peek? != some '!' then .error .malformed
  else if c.second? == some ' ' then .ok ("!", c.advance)
  else
    let name := c.advance.taken isNameChar
    let c := c.advanceBy (name.length + 1)
    if c.peek? == some '!' then .ok (String.ofList ('!' :: name ++ ['!']), c.advance)
    else .error .malformed

/-- The handle and the suffix of a tag, and what follows it. -/
def takeTagParts (c : Cursor) : Except Fault (Option String × String × Cursor) :=
  if c.second? == some '<' then do
    let (address, c) ← takeAddress (c.advanceBy 2)
    if c.peek? == some '>' then pure (none, address, c.advance) else .error .malformed
  else if endsWord c.second? then .ok (none, "!", c.advance)
  else
    let word := c.rest.tail.takeWhile fun ch => !endsPart (some ch)
    do
      let (handle, c) ← if word.contains '!' then takeHandle c else pure ("!", c.advance)
      let (suffix, c) ← takeAddress c
      pure (some handle, suffix, c)

/-- The tag at the front, and what follows it. -/
def takeTag (c : Cursor) : Except Fault (Token × Cursor) := do
  let (handle, suffix, c) ← takeTagParts c
  if endsPart c.peek? then pure (.tag handle suffix, c) else .error .malformed

/-- The name of an anchor or a reference to one, and what follows it. -/
def takeAnchor (c : Cursor) : Except Fault (String × Cursor) := do
  let (name, c) ← takeName c.advance
  if c.peek?.all fun ch => isBreak ch || isBlank ch || "?:,]\x7d%@\x60".toList.contains ch then
    pure (name, c)
  else .error .malformed

/-- The number at the front, and what follows it. -/
def takeNumber (c : Cursor) : Except Fault (Nat × Cursor) :=
  let digits := c.taken fun ch => '0' ≤ ch && ch ≤ '9'
  if digits.isEmpty then .error .malformed
  else if Value.maxIntegerDigits < digits.length then .error (.failed .scalarText)
  else .ok (digits.foldl (fun n d => 10 * n + (d.toNat - 48)) 0, c.advanceBy digits.length)

/-- A cursor behind the spaces here. -/
def skipSpaces (c : Cursor) : Cursor := c.skip (· == ' ')

/-- The version that a directive names, and what follows it. -/
def takeVersion (c : Cursor) : Except Fault (Token × Cursor) := do
  let (major, c) ← takeNumber (skipSpaces c)
  if c.peek? == some '.' then
    let (_, c) ← takeNumber c.advance
    if endsPart c.peek? then pure (.version major, c) else .error .malformed
  else .error .malformed

/-- The handle that a directive explains, and what follows its explanation. -/
def takeTagHandle (c : Cursor) : Except Fault (Token × Cursor) := do
  let (handle, c) ← takeHandle (skipSpaces c)
  if c.peek? == some ' ' then
    let (target, c) ← takeAddress (skipSpaces c)
    if endsPart c.peek? then pure (.tagHandle handle target, c) else .error .malformed
  else .error .malformed

/-- The directive at the front, and what follows its line. -/
def takeDirective (c : Cursor) : Except Fault (Token × Cursor) := do
  let (name, c) ← takeName c.advance
  if endsPart c.peek? then
    let (token, c) ←
      if name == "YAML" then takeVersion c
      else if name == "TAG" then takeTagHandle c
      else pure (.reserved, c.skip fun ch => !isBreak ch)
    let c ← c.nextLine
    pure (token, c)
  else .error .malformed

/-! ### Indentation and keys -/

/-- Something that may be a simple key: the number of tokens before it, where it begins, in
how many flow collections, and whether it has to be one. -/
structure SimpleKey where
  flow : Nat
  tokens : Nat
  index : Nat
  line : Nat
  column : Nat
  required : Bool

/-- The tokens found so far, latest first, and what decides about the next. -/
structure Scanner where
  cursor : Cursor
  flow : Nat
  indent : Int
  outer : List Int
  keyAllowed : Bool
  keys : List SimpleKey
  tokens : List Token
  count : Nat

namespace Scanner

/-- The scanner at the beginning of a text. -/
def start (cs : List Char) : Scanner := ⟨Cursor.start cs, 0, -1, [], true, [], [], 0⟩

/-- One more token. -/
def emit (s : Scanner) (t : Token) : Scanner :=
  { s with tokens := t :: s.tokens, count := s.count + 1 }

/-- One more token, and the cursor behind it. -/
def emitAt (s : Scanner) (t : Token) (c : Cursor) : Scanner := { s.emit t with cursor := c }

/-- Puts a token behind the first `place` ones. -/
def insertAt (s : Scanner) (place : Nat) (t : Token) : Scanner :=
  let later := s.count - place
  { s with tokens := s.tokens.take later ++ t :: s.tokens.drop later, count := s.count + 1 }

/-- Whether the scanner is inside a flow collection. -/
def inFlow (s : Scanner) : Bool := s.flow != 0

/-- Leaves the block collections that are indented beyond a column. -/
def unwindTo (column : Int) : List Int → Scanner → Scanner
  | [], s => s
  | i :: outer, s =>
    if column < s.indent then
      unwindTo column outer { s.emit .endBlock with indent := i, outer := outer }
    else s

/-- Leaves the block collections that are indented beyond a column, outside of flow. -/
def unwind (s : Scanner) (column : Int) : Scanner :=
  if s.inFlow then s else unwindTo column s.outer s

/-- Enters a block collection at a column, and tells whether there was none. -/
def enter? (s : Scanner) (column : Nat) : Option Scanner :=
  if s.indent < column then some { s with indent := column, outer := s.indent :: s.outer } else none

/-- Enters a block collection at the cursor, where there is none yet. -/
def enterHere (s : Scanner) (t : Token) : Scanner :=
  match s.enter? s.cursor.column with
  | some s => s.emit t
  | none => s

/-- Forgets the keys that meet a condition; none of them may be required. -/
def dropKeys (s : Scanner) (p : SimpleKey → Bool) : Except Fault Scanner :=
  if s.keys.any fun k => p k && k.required then .error .malformed
  else .ok { s with keys := s.keys.filter fun k => !p k }

/-- Forgets the key of the innermost flow collection. -/
def dropKey (s : Scanner) : Except Fault Scanner := s.dropKeys fun k => k.flow == s.flow

/-- Whether a key is too far behind. -/
def isStale (s : Scanner) (k : SimpleKey) : Bool :=
  k.line != s.cursor.line || 1024 < s.cursor.index - k.index

/-- Forgets the keys that are too far behind. -/
def dropStale (s : Scanner) : Except Fault Scanner := s.dropKeys s.isStale

/-- Remembers that a key may begin here. -/
def saveKey (s : Scanner) : Except Fault Scanner :=
  if s.keyAllowed then do
    let s ← s.dropKey
    let c := s.cursor
    let required := !s.inFlow && s.indent == c.column
    pure { s with keys := ⟨s.flow, s.count, c.index, c.line, c.column, required⟩ :: s.keys }
  else pure s

/-! ### Single tokens -/

/-- The spaces, comments and line breaks before the next token are skipped; outside of flow
a new line may begin with a key. -/
def skipToToken : Nat → Scanner → Scanner
  | 0, s => s
  | n + 1, s =>
    let c := (skipSpaces s.cursor).skipComment
    match c.takeBreak? with
    | some (_, c) => skipToToken n { s with cursor := c, keyAllowed := s.keyAllowed || !s.inFlow }
    | none => { s with cursor := c }

/-- A directive or the mark of a document. -/
def takeMark (s : Scanner) (take : Cursor → Except Fault (Token × Cursor)) : Except Fault Scanner :=
  do
  let s ← (s.unwind (-1)).dropKey
  let (t, c) ← take s.cursor
  pure { s.emitAt t c with keyAllowed := false }

/-- An anchor, a reference, a tag or a quoted scalar: it may be a key. -/
def takePart (s : Scanner) (take : Cursor → Except Fault (Token × Cursor)) : Except Fault Scanner :=
  do
  let s ← s.saveKey
  let (t, c) ← take s.cursor
  pure { s.emitAt t c with keyAllowed := false }

/-- The opening bracket of a flow collection. -/
def takeOpening (s : Scanner) (t : Token) : Except Fault Scanner := do
  let s ← s.saveKey
  pure { s.emitAt t s.cursor.advance with flow := s.flow + 1, keyAllowed := true }

/-- The closing bracket of a flow collection. -/
def takeClosing (s : Scanner) (t : Token) : Except Fault Scanner := do
  let s ← s.dropKey
  if s.inFlow then pure { s.emitAt t s.cursor.advance with flow := s.flow - 1, keyAllowed := false }
  else .error .malformed

/-- A comma between entries. -/
def takeFlowEntry (s : Scanner) : Except Fault Scanner := do
  let s ← s.dropKey
  pure { s.emitAt .flowEntry s.cursor.advance with keyAllowed := true }

/-- The dash before an entry. -/
def takeBlockEntry (s : Scanner) : Except Fault Scanner := do
  if !s.inFlow && !s.keyAllowed then .error .malformed
  else
    let s := if s.inFlow then s else s.enterHere .blockSequence
    let s ← s.dropKey
    pure { s.emitAt .blockEntry s.cursor.advance with keyAllowed := true }

/-- The question mark before a key. -/
def takeKey (s : Scanner) : Except Fault Scanner := do
  if !s.inFlow && !s.keyAllowed then .error .malformed
  else
    let s := if s.inFlow then s else s.enterHere .blockMapping
    let s ← s.dropKey
    pure { s.emitAt .key s.cursor.advance with keyAllowed := !s.inFlow }

/-- The key before a colon that is a simple one: its token and, where a block mapping begins
with it, that of the mapping are put before it. -/
def announceKey (s : Scanner) (k : SimpleKey) : Scanner :=
  let s := { s with keys := s.keys.filter fun other => other.flow != k.flow }
  let s := s.insertAt k.tokens .key
  let s := if s.inFlow then s else
    match s.enter? k.column with
    | some s => s.insertAt k.tokens .blockMapping
    | none => s
  { s with keyAllowed := false }

/-- The colon before a value. -/
def takeValue (s : Scanner) : Except Fault Scanner := do
  match s.keys.find? fun k => k.flow == s.flow with
  | some k =>
    let s := s.announceKey k
    pure (s.emitAt .value s.cursor.advance)
  | none =>
    if !s.inFlow && !s.keyAllowed then .error .malformed
    else
      let s := if s.inFlow then s else s.enterHere .blockMapping
      let s ← { s with keyAllowed := !s.inFlow }.dropKey
      pure (s.emitAt .value s.cursor.advance)

/-- A block scalar. -/
def takeBlockScalar (s : Scanner) (fold : Bool) : Except Fault Scanner := do
  let s ← s.dropKey
  let (text, c) ← takeBlock fold s.indent s.cursor
  pure { s.emitAt (.scalar (String.ofList text) false) c with keyAllowed := true }

/-- A plain scalar. -/
def takePlainScalar (s : Scanner) : Except Fault Scanner := do
  let s ← s.saveKey
  let (text, broken, c) := takePlain s.inFlow (s.indent + 1) s.cursor
  pure { s.emitAt (.scalar (String.ofList text) true) c with keyAllowed := broken }

/-- Whether a plain scalar begins with a character before another one. -/
def beginsPlain (inFlow : Bool) (ch : Char) (next : Option Char) : Bool :=
  !(isBreak ch || isBlank ch || "-?:,[]\x7b\x7d#&*!|>\x27\x22%@\x60".toList.contains ch) ||
    (!endsWord next && (ch == '-' || (!inFlow && (ch == '?' || ch == ':'))))

/-- The token that begins with a character. -/
def takeToken (s : Scanner) (ch : Char) : Except Fault Scanner :=
  let next := s.cursor.second?
  let atMark := s.cursor.column == 0 && s.cursor.atSeparator
  let mark (t : Token) : Except Fault Scanner := s.takeMark fun c => .ok (t, c.advanceBy 3)
  if ch == '%' && s.cursor.column == 0 then s.takeMark takeDirective
  else if ch == '-' && atMark then mark .beginDocument
  else if ch == '.' && atMark then mark .endDocument
  else if ch == '[' then s.takeOpening .openSequence
  else if ch == '\x7b' then s.takeOpening .openMapping
  else if ch == ']' then s.takeClosing .closeSequence
  else if ch == '\x7d' then s.takeClosing .closeMapping
  else if ch == ',' then s.takeFlowEntry
  else if ch == '-' && endsWord next then s.takeBlockEntry
  else if ch == '?' && (s.inFlow || endsWord next) then s.takeKey
  else if ch == ':' && (s.inFlow || endsWord next) then s.takeValue
  else if ch == '*' then s.takePart fun c => (takeAnchor c).map fun p => (.reference p.1, p.2)
  else if ch == '&' then s.takePart fun c => (takeAnchor c).map fun p => (.anchor p.1, p.2)
  else if ch == '!' then s.takePart takeTag
  else if ch == '|' && !s.inFlow then s.takeBlockScalar false
  else if ch == '>' && !s.inFlow then s.takeBlockScalar true
  else if ch == '\x27' || ch == '\x22' then
    s.takePart fun c =>
      (takeQuoted (ch == '\x22') c).map fun p => (.scalar (String.ofList p.1) false, p.2)
  else if beginsPlain s.inFlow ch next then s.takePlainScalar
  else .error .malformed

/-- The next token, or the end of the text. -/
def step (s : Scanner) : Except Fault (Scanner × Bool) := do
  let s := skipToToken (s.cursor.left + 1) s
  let s ← s.dropStale
  let s := s.unwind s.cursor.column
  match s.cursor.peek? with
  | some ch =>
    let s ← s.takeToken ch
    pure (s, false)
  | none =>
    let s ← (s.unwind (-1)).dropKey
    pure (s, true)

end Scanner

/-- How many tokens are certain: those before the first that may turn out to be a key. -/
def Scanner.certain (s : Scanner) : Nat :=
  (s.keys.filter fun k => !s.isStale k).foldl (fun n k => min n k.tokens) s.count

/-- The tokens of a text that are certain, and the fault behind them, if there is one. -/
structure Tokens where
  list : List Token
  fault : Option Fault

/-- The tokens from here on. -/
def scanFrom : Nat → Scanner → Tokens
  | 0, s => ⟨s.tokens.reverse, some .malformed⟩
  | n + 1, s =>
    match s.step with
    | .ok (s, finished) => if finished then ⟨s.tokens.reverse, none⟩ else scanFrom n s
    | .error e => ⟨s.tokens.reverse.take s.certain, some e⟩

/-- The tokens of a text: a byte order mark before them is skipped. -/
def scan (cs : List Char) : Tokens :=
  if cs.all isAllowed then
    let c := Cursor.start cs
    let c := if c.peek? == some '\uFEFF' then c.advance else c
    scanFrom (cs.length + 1) { Scanner.start cs with cursor := c }
  else ⟨[], some .malformed⟩

end Yaml
end Verdict
