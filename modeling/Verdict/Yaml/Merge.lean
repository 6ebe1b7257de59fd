/-
# Merging

The pairs of a mapping under the key `<<` come before its own, and are those of other mappings:

| value under `<<` | pairs |
| --- | --- |
| a mapping | its own, and those merged into it |
| a sequence of mappings | those of the last first, so that the first one wins |

A source is merged before its pairs are taken, so that it changes as well: a mapping that is its
own source has its pairs twice.  The keys `=` of a mapping that has been merged are texts.
-/

import Verdict.Yaml.Graph

namespace Verdict
namespace Yaml

/-- Pairs of a key and a value by their numbers. -/
abbrev Pairs := List (Nat × Nat)

namespace Nodes

/-- Whether a node has a tag. -/
def hasTag (ns : Nodes) (t : Tag) (i : Nat) : Bool := (ns.node i).tag == t

/-- How many pairs with the key `<<` there are. -/
def mergeCount (ns : Nodes) : Nat :=
  ns.foldl (fun n node =>
    match node with
    | .mapping _ pairs => n + pairs.countP fun p => ns.hasTag .merge p.1
    | _ => n) 0

/-- The value under the first key `<<`, and the other pairs. -/
def splitMerge? (ns : Nodes) : Pairs → Option (Nat × Pairs)
  | [] => none
  | p :: r =>
    if ns.hasTag .merge p.1 then some (p.2, r)
    else (splitMerge? ns r).map fun found => (found.1, p :: found.2)

/-- Gives new pairs to the mapping with a number. -/
def setPairs (ns : Nodes) (i : Nat) (pairs : Pairs) : Nodes :=
  ns.setIfInBounds i (.mapping (ns.node i).tag pairs)

/-- Makes a key `=` a text. -/
def plainKey (ns : Nodes) (i : Nat) : Nodes :=
  match ns.node i with
  | .scalar .value text => ns.setIfInBounds i (.scalar .str text)
  | .sequence .value items => ns.setIfInBounds i (.sequence .str items)
  | .mapping .value pairs => ns.setIfInBounds i (.mapping .str pairs)
  | _ => ns

/-- Puts pairs in front of those of a mapping, whose keys `=` become texts. -/
def prepend (ns : Nodes) (i : Nat) (found : Pairs) : Nodes :=
  let own := ns.pairs i
  let ns := own.foldl (fun ns p => ns.plainKey p.1) ns
  if found.isEmpty then ns else ns.setPairs i (found ++ own)

mutual

/-- Merges into a mapping what its keys `<<` say, at most `depth` sources deep. -/
def merge : Nat → Nat → Nat → Nodes → Except Fault Nodes
  | fuel + 1, depth + 1, i, ns =>
    match gather fuel depth i [] ns with
    | .ok (found, ns) => .ok (ns.prepend i found)
    | .error e => .error e
  | _, _, _, _ => .error (.failed .tooNested)

/-- Takes the keys `<<` out of a mapping, and gives the pairs that they bring in, after those
found already. -/
def gather : Nat → Nat → Nat → Pairs → Nodes → Except Fault (Pairs × Nodes)
  | fuel + 1, depth, i, found, ns =>
    match ns.splitMerge? (ns.pairs i) with
    | none => .ok (found, ns)
    | some (source, rest) =>
      match bring fuel depth source (ns.setPairs i rest) with
      | .ok (more, ns) => gather fuel depth i (found ++ more) ns
      | .error e => .error e
  | 0, _, _, _, _ => .error (.failed .tooNested)

/-- The pairs that a value under a key `<<` brings in. -/
def bring : Nat → Nat → Nat → Nodes → Except Fault (Pairs × Nodes)
  | fuel + 1, depth, source, ns =>
    match ns.node source with
    | .mapping _ _ => (merge fuel depth source ns).map fun ns => (ns.pairs source, ns)
    | .sequence _ items =>
      items.foldlM (fun (found, ns) i =>
        if (ns.node i).isMapping then
          (merge fuel depth i ns).map fun ns => (ns.pairs i ++ found, ns)
        else .error .malformed) ([], ns)
    | .scalar _ _ => .error .malformed
  | 0, _, _, _ => .error (.failed .tooNested)

end

end Nodes
end Yaml
end Verdict
