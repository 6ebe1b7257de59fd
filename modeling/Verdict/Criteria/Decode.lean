/-
# Reading a document from a value

A document is read from an object that lists its groups, all or nothing: one member of a
wrong type anywhere leaves no document.

| member | takes | when absent or null |
| --- | --- | --- |
| `id`, and `token` and `operator` of a condition | a text, or a scalar by its text | the empty text |
| `label` | the same | the id, as for a blank label |
| `value` | a scalar; floats as decimals | null |
| `operator` of a group or a document | anything; only `OR` is not `AND` | `AND` |
| `conditions`, `groups` | a list | the empty list |

The groups within a group may be listed under `subgroups` where it has no member
`groups`.  Other members are of no account.  No chain of groups may be longer than
`maxDepth`.
-/

import Verdict.Criteria.Document
import Verdict.Value.Lenient

namespace Verdict

/-- The most groups that a chain may have. -/
def maxDepth : Nat := 254

namespace Value

/-- The text of a value in a field that shows scalars by their text. -/
def scalarText? : Value → Option String
  | .null => some ""
  | .bool b => some (boolWord b)
  | .int n => if digitCount n.natAbs ≤ maxIntegerDigits then some (integerText n) else none
  | .float x => some x.text
  | .decimal d => some d.text
  | v => v.asText?

/-- The text of an object's member, empty where it is absent. -/
def memberText? (name : String) (fields : List (String × Value)) : Option String :=
  ((lookup? name fields).getD .null).scalarText?

/-- The items of a value in a list field. -/
def asItems? : Value → Option (List Value)
  | .null => some []
  | .list items => some items
  | _ => none

end Value

open Value

/-- The literal that bytes stand for: a truth value or an integer by its text, otherwise
the text. -/
def Literal.ofBytes? (bs : List UInt8) : Option Literal :=
  (asText? (.bytes bs)).map fun s =>
    match boolOfText? s, intOfText? s with
    | some b, _ => .boolean b
    | none, some n => .integer n
    | none, none => .text s

/-- The literal that a value stands for. -/
def Literal.ofValue? : Value → Option Literal
  | .null => some .null
  | .bool b => some (.boolean b)
  | .int n => some (.integer n)
  | .float x => some (if x.isFinite then .decimal x.toDecimal else .text x.text)
  | .decimal (.finite d) => some (.decimal d)
  | .text s => some (.text s)
  | .bytes bs => Literal.ofBytes? bs
  | _ => none

namespace Condition

/-- The condition that an object's members describe. -/
def ofFields? (fields : List (String × Value)) : Option Condition := do
  let id ← memberText? "id" fields
  let token ← memberText? "token" fields
  let operator ← memberText? "operator" fields
  let value ← Literal.ofValue? ((lookup? "value" fields).getD .null)
  pure ⟨id, token, operator, value⟩

/-- The condition that a value describes. -/
def ofValue? : Value → Option Condition
  | .object fields => ofFields? fields
  | _ => none

/-- The conditions that a list of values describes. -/
def ofValues? : List Value → Option (List Condition)
  | [] => some []
  | v :: r => do
    let c ← ofValue? v
    let cs ← ofValues? r
    pure (c :: cs)

/-- The conditions that an object's members list. -/
def listOfFields? (fields : List (String × Value)) : Option (List Condition) :=
  (asItems? ((lookup? "conditions" fields).getD .null)).bind ofValues?

end Condition

namespace Group

/-- The label of a group: its id, where the value of the label is absent or blank. -/
def labelOf? (id : String) (v : Value) : Option String :=
  v.scalarText?.map fun label =>
    match v with
    | .bytes _ => label
    | _ => if Text.allBlank label then id else label

mutual

/-- The group that a value describes. -/
def ofValue? : Value → Option Group
  | .object fields => do
    let id ← memberText? "id" fields
    let label ← labelOf? id ((lookup? "label" fields).getD .null)
    let conditions ← Condition.listOfFields? fields
    let groups ← if (lookup? "groups" fields).isSome then ofMember? "groups" fields
      else ofMember? "subgroups" fields
    let operator := Combinator.ofValue ((lookup? "operator" fields).getD .null)
    pure ⟨id, label, operator, conditions, groups⟩
  | _ => none

/-- The groups that an object's member of a given name lists. -/
def ofMember? (name : String) : List (String × Value) → Option (List Group)
  | [] => some []
  | (k, v) :: r => if k = name then ofItems? v else ofMember? name r

/-- The groups that a value lists. -/
def ofItems? : Value → Option (List Group)
  | .null => some []
  | .list items => ofValues? items
  | _ => none

/-- The groups that a list of values describes. -/
def ofValues? : List Value → Option (List Group)
  | [] => some []
  | v :: r => do
    let g ← ofValue? v
    let gs ← ofValues? r
    pure (g :: gs)

end

/-- The member of a given name lists what its value lists. -/
theorem ofMember?_eq (name : String) (fields : List (String × Value)) :
    ofMember? name fields = ofItems? ((lookup? name fields).getD .null) := by
  induction fields with
  | nil => simp [ofMember?, ofItems?, lookup?]
  | cons f r ih =>
    obtain ⟨k, v⟩ := f
    unfold ofMember? lookup?
    split
    · rfl
    · exact ih

/-- The group that an object's members describe, if its chains are short enough. -/
def ofFields? (fields : List (String × Value)) : Option Group :=
  (ofValue? (.object fields)).filter fun g => g.depth ≤ maxDepth

end Group

/-- The document that an object's members describe. -/
def Document.ofFields? (fields : List (String × Value)) : Option Document :=
  (Group.ofMember? "groups" fields).bind fun groups =>
    if Group.depths groups ≤ maxDepth then
      some ⟨Combinator.ofValue ((lookup? "operator" fields).getD .null), groups⟩
    else none

end Verdict
