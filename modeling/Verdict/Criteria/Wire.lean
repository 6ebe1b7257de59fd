/-
# Writing a document as a value

A document is written as the object that it can be read from again, with its literals
echoed and with every member present.

| written | members |
| --- | --- |
| document | `operator`, `groups` |
| group | `id`, `label`, `operator`, `conditions`, `groups` |
| condition | `id`, `token`, `operator`, `value` |

A document in which a group at depth `maxDepth` has conditions cannot be written.
-/

import Verdict.Criteria.Decode

namespace Verdict

/-- A condition as an object. -/
def Condition.toValue (c : Condition) : Value :=
  .object [("id", .text c.id), ("token", .text c.token), ("operator", .text c.operator),
    ("value", c.value.toValue.echo)]

namespace Group

mutual

/-- A group as an object. -/
def toValue : Group → Value
  | ⟨id, label, operator, conditions, groups⟩ =>
    .object [("id", .text id), ("label", .text label), ("operator", .text operator.word),
      ("conditions", .list (conditions.map Condition.toValue)), ("groups", .list (toValues groups))]

/-- Groups as objects. -/
def toValues : List Group → List Value
  | [] => []
  | g :: r => g.toValue :: toValues r

end

/-- Whether a group that is `n` levels below one of a list has conditions. -/
def conditionsAt : Nat → List Group → Bool
  | 0, gs => gs.any fun g => !g.conditions.isEmpty
  | n + 1, gs => gs.any fun g => conditionsAt n g.groups

/-- Whether groups can be written out. -/
def writable (groups : List Group) : Bool := !conditionsAt (maxDepth - 1) groups

/-- A group as an object, if it can be written. -/
def wire? (g : Group) : Option Value := if writable [g] then some g.toValue else none

end Group

namespace Document

/-- A document as an object. -/
def toValue (d : Document) : Value :=
  .object [("operator", .text d.operator.word), ("groups", .list (Group.toValues d.groups))]

/-- A document as an object, if it can be written. -/
def wire? (d : Document) : Option Value := if Group.writable d.groups then some d.toValue else none

end Document

end Verdict
