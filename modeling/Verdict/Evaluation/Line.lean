/-
# Trace lines

Evaluating a condition leaves one line in the trace.

| member | holds |
| --- | --- |
| `path` | the names of the enclosing groups, outermost first |
| `token`, `op` | the condition's token and its operator as written |
| `label` | the description of the token |
| `expected`, `actual` | the echoes of the literal and the fact |
| `pass` | whether the condition holds |

A line also knows the position of the top-level group it belongs to.  One that was supplied can
be shown where its values have no bytes but those of texts, and are not nested too deeply.
-/

import Verdict.Report.Failure
import Verdict.Value.Echo
import Verdict.Value.Lenient

namespace Verdict

namespace Value

/-- The most values that may stand inside each other in a payload. -/
def maxPayloadDepth : Nat := 254

mutual

/-- The failure to show a value in a payload, if it cannot be shown to a depth. -/
def payloadFailure? : Nat → Value → Option Failure
  | 0, _ => some .tooDeep
  | _ + 1, .bytes bs => if (Text.Utf8.decode bs).isSome then none else some .notUtf8
  | depth + 1, .list items => payloadsFailure? depth items
  | depth + 1, .object fields => fieldPayloadsFailure? depth fields
  | _ + 1, _ => none

/-- The first failure to show one of several values in a payload. -/
def payloadsFailure? : Nat → List Value → Option Failure
  | _, [] => none
  | depth, v :: r => (payloadFailure? depth v).or (payloadsFailure? depth r)

/-- The first failure to show the value of one of several members in a payload. -/
def fieldPayloadsFailure? : Nat → List (String × Value) → Option Failure
  | _, [] => none
  | depth, (_, v) :: r => (payloadFailure? depth v).or (fieldPayloadsFailure? depth r)

end

end Value

/-- One line of a trace. -/
structure Line where
  path : String
  token : String
  label : String
  op : String
  expected : Value
  actual : Value
  passed : Bool
  groupIndex : Option Int

namespace Line

/-- The members of a line as a payload shows them. -/
def members (l : Line) : List (String × Value) :=
  [("path", .text l.path), ("token", .text l.token), ("label", .text l.label), ("op", .text l.op),
    ("expected", l.expected.payload), ("actual", l.actual.payload), ("pass", .bool l.passed)]

/-- A line as a payload shows it. -/
def toValue (l : Line) : Value := .object l.members

/-- The failure to show a line, if it cannot be shown. -/
def failure? (l : Line) : Option Failure :=
  (l.expected.payloadFailure? Value.maxPayloadDepth).or
    (l.actual.payloadFailure? Value.maxPayloadDepth)

/-- The position that a supplied value gives for a line's group. -/
def index? : Value → Option (Option Int)
  | .null => some none
  | v => v.asInt?.map some

/-- The text of a member that a line must have. -/
def required? (name : String) (fields : List (String × Value)) : Option String :=
  (Value.lookup? name fields).bind Value.asText?

/-- The line that an object's members describe.  The outcome is a member `pass`, or
`passed` where that is absent. -/
def ofFields? (fields : List (String × Value)) : Option Line := do
  let path ← required? "path" fields
  let token ← required? "token" fields
  let label ← required? "label" fields
  let op ← required? "op" fields
  let outcome ← (Value.lookup? "pass" fields).or (Value.lookup? "passed" fields)
  let passed ← outcome.asBool?
  let groupIndex ← index? ((Value.lookup? "group_index" fields).getD .null)
  pure ⟨path, token, label, op, (Value.lookup? "expected" fields).getD .null,
    (Value.lookup? "actual" fields).getD .null, passed, groupIndex⟩

end Line

/-- Lines in the order in which they were recorded. -/
abbrev Trace := List Line

/-- The lines that belong to the top-level group at a position. -/
def Trace.ofGroup (t : Trace) (index : Option Int) : Trace :=
  t.filter fun l => l.groupIndex == index

end Verdict
