/-
# Values of YAML texts

The value of a document is that of its outermost node, unfolded to a depth: a collection that
lies deeper stands for itself, and so a collection that is a part of itself has a value as well.
No part is unfolded twice at one depth, however often it is referred to.

| shape | value |
| --- | --- |
| a scalar | its value |
| a list, an object | the list or object of the values of its parts |
| a list of pairs | a list of values that no rule can use |
| a set | the empty list where it is empty, otherwise a value that no rule can use |
-/

import Verdict.Value.Basic
import Verdict.Yaml.Shape

namespace Verdict
namespace Yaml

/-- A value, and whether nothing in it is left out. -/
structure Unfolded where
  value : Value
  whole : Bool

namespace Shape

/-- The value of a shape without its parts. -/
def folded : Shape → Unfolded
  | .plain v => ⟨v, true⟩
  | .list _ => ⟨.other "list", false⟩
  | .object _ => ⟨.other "dict", false⟩
  | .pairs count => ⟨.list (List.replicate count (.other "tuple")), true⟩
  | .set isEmpty => ⟨if isEmpty then .list [] else .other "set", true⟩

/-- The value of a shape from those of its parts. -/
def filled (part : Nat → Unfolded) : Shape → Unfolded
  | .list items =>
    let parts := items.map part
    ⟨.list (parts.map (·.value)), parts.all (·.whole)⟩
  | .object fields =>
    let parts := fields.map fun f => (f.1, part f.2)
    ⟨.object (parts.map fun f => (f.1, f.2.value)), parts.all (·.2.whole)⟩
  | s => s.folded

end Shape

/-- The values of shapes one step deeper than before. -/
def deepen (shapes : Array Shape) (values : Array Unfolded) : Array Unfolded :=
  shapes.zipWith (fun s u =>
    if u.whole then u else s.filled fun i => values.getD i ⟨.null, true⟩) values

/-- The values of shapes a number of steps deeper, or until nothing is left out. -/
def deepenBy (shapes : Array Shape) : Nat → Array Unfolded → Array Unfolded
  | 0, values => values
  | depth + 1, values =>
    if values.all (·.whole) then values else deepenBy shapes depth (deepen shapes values)

/-- The value of a document to a depth: a set is no list there. -/
def Graph.value (g : Graph) (depth : Nat) : Except Fault Value :=
  g.shapes.map fun found =>
    let shapes := found.map fun s => s.getD (.plain .null)
    match shapes[g.root]? with
    | some (Shape.set _) => .other "set"
    | _ => ((deepenBy shapes depth (shapes.map Shape.folded))[g.root]?.map (·.value)).getD .null

/-- The value of a text to a depth, null where it holds no document. -/
def read (depth : Nat) (cs : List Char) : Except Fault Value :=
  match Graph.ofText cs with
  | .ok (some g) => g.value depth
  | .ok none => .ok .null
  | .error e => .error e

end Yaml
end Verdict
