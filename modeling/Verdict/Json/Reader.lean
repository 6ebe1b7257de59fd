/-
# Reading JSON texts

The reader takes one token after the other and keeps a stack of the lists and objects that
are still open.  Errors are met in the order of the text.

| dialect | numbers with a fraction or an exponent | limits |
| --- | --- | --- |
| `rules` | exact decimals | digits of an integer, depth |
| `request` | binary64 numbers | digits of an integer, depth |
| `plain` | binary64 numbers | none |

Of two members with one name the later wins.  `NaN` and the infinities are binary64
numbers in every dialect.
-/

import Verdict.Json.Token
import Verdict.Value.Lenient

namespace Verdict
namespace Json

/-- The most lists and objects that may be open at once in a text with limits.  This is an assumption about
the call stack: reading needs room for each open list and object, and the room at hand is taken to suffice
for this many and no more. -/
def maxNesting : Nat := 990

/-- How numbers are read, and how large a text may be. -/
structure Dialect where
  exact : Bool
  maxDigits : Option Nat
  maxDepth : Option Nat
deriving DecidableEq, Repr

namespace Dialect

/-- The dialect of rule documents. -/
def rules : Dialect := ⟨true, some Value.maxIntegerDigits, some maxNesting⟩

/-- The dialect of requests and settings. -/
def request : Dialect := ⟨false, some Value.maxIntegerDigits, some maxNesting⟩

/-- The dialect without limits. -/
def plain : Dialect := ⟨false, none, none⟩

end Dialect

/-- Why a text has no value. -/
inductive Fault where
  | malformed
  | tooManyDigits
  | tooDeep
  | outOfRange
deriving DecidableEq, Repr

/-- The value of a number. -/
def numberValue (d : Dialect) (n : Numeral) : Except Fault Value :=
  if n.isInteger then
    if d.maxDigits.all (n.whole.length ≤ ·) then .ok (.int n.toInt) else .error .tooManyDigits
  else if d.exact then
    match n.decimal? with
    | some x => .ok (.decimal (.finite x))
    | none => .error .outOfRange
  else .ok (.float (Binary64.ofDecimal n.toDecimal))

/-- A list or an object that is still open: the items read so far, latest first, or the
members read so far and the name of the next. -/
inductive Frame where
  | items (read : List Value)
  | members (read : List (String × Value)) (name : String)

/-- What the next token has to be, inside the open frames. -/
inductive State where
  | value (stack : List Frame)
  | firstItem (stack : List Frame)
  | firstName (stack : List Frame)
  | name (read : List (String × Value)) (stack : List Frame)
  | colon (read : List (String × Value)) (name : String) (stack : List Frame)
  | after (v : Value) (stack : List Frame)

/-- A list or an object opens, if the depth allows it. -/
def opened (d : Dialect) (stack : List Frame) (st : State) : Except Fault State :=
  if d.maxDepth.all (stack.length < ·) then .ok st else .error .tooDeep

/-- A token where a value has to begin. -/
def beginValue (d : Dialect) (stack : List Frame) : Token → Except Fault State
  | .openList => opened d stack (.firstItem stack)
  | .openObject => opened d stack (.firstName stack)
  | .text s => .ok (.after (.text s) stack)
  | .number n => (numberValue d n).map fun v => .after v stack
  | .constant v => .ok (.after v stack)
  | _ => .error .malformed

/-- A token after a complete value. -/
def afterValue (v : Value) : List Frame → Token → Except Fault State
  | .items read :: stack, .comma => .ok (.value (.items (v :: read) :: stack))
  | .items read :: stack, .closeList => .ok (.after (.list (v :: read).reverse) stack)
  | .members read name :: stack, .comma => .ok (.name (Value.putField name v read) stack)
  | .members read name :: stack, .closeObject =>
    .ok (.after (.object (Value.putField name v read)) stack)
  | _, _ => .error .malformed

/-- The state after one more token. -/
def step (d : Dialect) : State → Token → Except Fault State
  | .value stack, t => beginValue d stack t
  | .firstItem stack, .closeList => .ok (.after (.list []) stack)
  | .firstItem stack, t => beginValue d (.items [] :: stack) t
  | .firstName stack, .closeObject => .ok (.after (.object []) stack)
  | .firstName stack, .text s => .ok (.colon [] s stack)
  | .name read stack, .text s => .ok (.colon read s stack)
  | .colon read s stack, .colon => .ok (.value (.members read s :: stack))
  | .after v stack, t => afterValue v stack t
  | _, _ => .error .malformed

/-- The value of a text that ends here: nothing may be open. -/
def finish : State → Except Fault Value
  | .after v [] => .ok v
  | _ => .error .malformed

/-- A text without the blanks at its front. -/
def skipBlanks (cs : List Char) : List Char := cs.dropWhile isBlank

/-- The value that the rest of a text leads to. -/
def run (d : Dialect) (st : State) (cs : List Char) : Except Fault Value :=
  if (skipBlanks cs).isEmpty then finish st
  else
    match _h : takeToken? (skipBlanks cs) with
    | none => .error .malformed
    | some (t, r) =>
      match step d st t with
      | .ok st => run d st r
      | .error e => .error e
termination_by cs.length
decreasing_by
  have h₁ := length_takeToken?_lt ‹_›
  have h₂ : (skipBlanks cs).length ≤ cs.length := (List.dropWhile_suffix _).length_le
  omega

/-- The value of a text. -/
def read (d : Dialect) (cs : List Char) : Except Fault Value := run d (.value []) cs

end Json
end Verdict
