/-
# Shapes of YAML documents

A node has a shape by its tag, and the parts of a shape are nodes again:

| tag | shape |
| --- | --- |
| a scalar's | what its text says; a mapping stands for the scalar under its key `=` |
| `seq` | a list of its items |
| `map` | an object of its pairs; names other than texts are dropped |
| `omap`, `pairs` | a list of pairs, from mappings of one pair each |
| `set` | a set |

Collections are shaped in the order in which they are met, the outermost first, each after the
ones around it; so of several faults the one that fewest collections enclose counts, of these the
first.  A collection of the wrong kind for its tag is a fault inside it.  A list, an object or a
set is no key.
-/

import Verdict.Yaml.Merge

namespace Verdict
namespace Yaml

/-- What a node makes, its parts by their numbers. -/
inductive Shape where
  | plain (v : Value)
  | list (items : List Nat)
  | object (fields : List (String × Nat))
  | pairs (count : Nat)
  | set (isEmpty : Bool)

/-- The deepest that sources may be merged into each other, and that scalars may be wrapped in
mappings. -/
def maxWrapping : Nat := 2 * maxNesting

/-- The text of a node in the place of a scalar. -/
def Nodes.text (ns : Nodes) : Nat → Nat → Except Fault String
  | 0, _ => .error (.failed .tooNested)
  | depth + 1, i =>
    match ns.node i with
    | .scalar _ text => .ok text
    | .mapping _ pairs =>
      match pairs.find? fun p => ns.hasTag .value p.1 with
      | some p => text ns depth p.2
      | none => .error .malformed
    | .sequence _ _ => .error .malformed

/-- Whether a tag is that of a collection. -/
def Tag.isCollection (t : Tag) : Bool := [Tag.seq, .map, .set, .omap, .pairs].contains t

/-- Whether a tag is that of no value at all. -/
def Tag.isVoid (t : Tag) : Bool := [Tag.merge, .value, .unknown].contains t

/-- The value of a node that is no collection by its tag: a timestamp is a scalar itself. -/
def Nodes.scalar (ns : Nodes) (i : Nat) : Except Fault Value :=
  let tag := (ns.node i).tag
  if tag.isVoid then .error .malformed
  else
    match ns.text maxWrapping i with
    | .error e => .error e
    | .ok text =>
      if tag == .timestamp && (ns.node i).isMapping then .error (.failed .scalarKind)
      else scalarValue tag text

/-- The nodes of a document, the shapes that are known, the collections in the order in which
they were met, and the steps that suffice for merging. -/
structure Draft where
  nodes : Nodes
  shapes : Array (Option Shape)
  met : Array Nat
  steps : Nat

namespace Draft

/-- Gives a shape to a node. -/
def give (d : Draft) (i : Nat) (s : Shape) : Draft :=
  { d with shapes := d.shapes.setIfInBounds i (some s) }

/-- The shape of a node, if it is known. -/
def shape? (d : Draft) (i : Nat) : Option Shape := (d.shapes[i]?).join

/-- Meets a node: a scalar gets its shape, a collection waits for it as an empty list. -/
def meet (d : Draft) (i : Nat) : Except Fault Draft :=
  if (d.shape? i).isSome then .ok d
  else if (d.nodes.node i).tag.isCollection then
    .ok { d with shapes := d.shapes.setIfInBounds i (some (.list [])), met := d.met.push i }
  else
    match d.nodes.scalar i with
    | .ok v => .ok (d.give i (.plain v))
    | .error e => .error e

/-- The value of a node that may be a key. -/
def key? (d : Draft) (i : Nat) : Option Value :=
  match d.shape? i with
  | some (.plain v) => some v
  | _ => none

/-- Meets the key and the value of a pair. -/
def meetPair (d : Draft) (p : Nat × Nat) : Except Fault Draft := do
  let d ← d.meet p.1
  d.meet p.2

/-- Puts a part under a name, in the place of an earlier one. -/
def putPart (name : String) (i : Nat) : List (String × Nat) → List (String × Nat)
  | [] => [(name, i)]
  | (k, old) :: r => if k = name then (k, i) :: r else (k, old) :: putPart name i r

/-- Meets the pairs of a mapping, and gives its parts under the keys that are texts. -/
def meetPairs (d : Draft) (pairs : Pairs) : Except Fault (Draft × List (String × Nat)) :=
  pairs.foldlM (fun (d, fields) p => do
    let d ← d.meet p.1
    match d.key? p.1 with
    | none => .error .malformed
    | some v =>
      let d ← d.meet p.2
      match v with
      | .text name => pure (d, putPart name p.2 fields)
      | _ => pure (d, fields)) (d, [])

/-- Meets the pair that a node is the only one of. -/
def meetSingle (d : Draft) (i : Nat) : Except Fault Draft :=
  match d.nodes.node i with
  | .mapping _ [p] => d.meetPair p
  | _ => .error .malformed

/-- Shapes a list. -/
def shapeList (d : Draft) (i : Nat) : Except Fault Draft :=
  match d.nodes.node i with
  | .sequence _ items => (items.foldlM meet d).map fun d => d.give i (.list items)
  | _ => .error .malformed

/-- Shapes a list of pairs. -/
def shapePairs (d : Draft) (i : Nat) : Except Fault Draft :=
  match d.nodes.node i with
  | .sequence _ items => (items.foldlM meetSingle d).map fun d => d.give i (.pairs items.length)
  | _ => .error .malformed

/-- Shapes a mapping: what is made of its pairs is told by whether there are any, and by its
parts. -/
def shapeMapping (d : Draft) (i : Nat) (make : Bool → List (String × Nat) → Shape) :
    Except Fault Draft :=
  if (d.nodes.node i).isMapping then do
    let nodes ← Nodes.merge d.steps maxWrapping i d.nodes
    let pairs := nodes.pairs i
    let (d, fields) ← { d with nodes := nodes }.meetPairs pairs
    pure (d.give i (make pairs.isEmpty fields))
  else .error .malformed

/-- Shapes a collection by its tag. -/
def shape (d : Draft) (i : Nat) : Except Fault Draft :=
  match (d.nodes.node i).tag with
  | .seq => d.shapeList i
  | .omap | .pairs => d.shapePairs i
  | .set => d.shapeMapping i fun isEmpty _ => .set isEmpty
  | _ => d.shapeMapping i fun _ fields => .object fields

/-- Shapes the collections from a place in the order on. -/
def shapeFrom : Nat → Nat → Draft → Except Fault Draft
  | 0, _, d => .ok d
  | n + 1, place, d =>
    match d.met[place]? with
    | none => .ok d
    | some i =>
      match d.shape i with
      | .ok d => shapeFrom n (place + 1) d
      | .error e => .error e

end Draft

/-- The shapes of a document's nodes; a node that is no part of it has none. -/
def Graph.shapes (g : Graph) : Except Fault (Array (Option Shape)) :=
  let ns := g.nodes
  let d : Draft := ⟨ns, Array.replicate ns.size none, #[], 4 * (ns.mergeCount + 1)⟩
  match d.meet g.root with
  | .ok d => (d.shapeFrom (ns.size + 1) 0).map (·.shapes)
  | .error e => .error e

end Yaml
end Verdict
