/-
# YAML documents

A text holds at most one document, and a document is a graph of nodes: scalars, sequences and
mappings, each with a tag.  The nodes are numbered in the order in which they begin, and a
collection holds the numbers of its children.  A reference stands for the number of the node
that has the anchor of its name, which may be a collection around the reference.  Collections
are nested no deeper than `maxNesting`.

| place | an entry may be missing |
| --- | --- |
| after a dash, a question mark or a colon | and stands for the empty plain scalar |
| behind an anchor or a tag | and stands for the empty scalar with them |
-/

import Verdict.Yaml.Tag
import Verdict.Yaml.Token

namespace Verdict
namespace Yaml

/-- A node of a document, its children by their numbers. -/
inductive Node where
  | scalar (tag : Tag) (text : String)
  | sequence (tag : Tag) (items : List Nat)
  | mapping (tag : Tag) (pairs : List (Nat × Nat))

namespace Node

/-- The empty plain scalar. -/
def empty : Node := .scalar .null ""

/-- The tag of a node. -/
def tag : Node → Tag
  | .scalar tag _ | .sequence tag _ | .mapping tag _ => tag

/-- Whether a node is a mapping. -/
def isMapping : Node → Bool
  | .mapping _ _ => true
  | _ => false

end Node

/-- Nodes by their numbers. -/
abbrev Nodes := Array Node

/-- The node with a number. -/
def Nodes.node (ns : Nodes) (i : Nat) : Node := ns.getD i Node.empty

/-- The pairs of the mapping with a number. -/
def Nodes.pairs (ns : Nodes) (i : Nat) : List (Nat × Nat) :=
  match ns.node i with
  | .mapping _ pairs => pairs
  | _ => []

/-- A document: its nodes, and the number of the outermost. -/
structure Graph where
  nodes : Nodes
  root : Nat

/-- The most collections that may be open at once.  This is an assumption about the call stack: reading
needs room for each open collection, and the room at hand is taken to suffice for this many and no more. -/
def maxNesting : Nat := 480

/-- What is left of the tokens, the numbers of the nodes that have anchors, the meanings of
handles, the number of collections that are open, and the nodes so far. -/
structure Source where
  tokens : List Token
  fault : Option Fault
  anchors : List (String × Nat)
  handles : List (String × String)
  nesting : Nat
  nodes : Nodes

/-- A step that takes tokens. -/
abbrev Take (α : Type) := StateT Source (Except Fault) α

namespace Take

/-- The next token, or none at the end of the text. -/
def peek : Take (Option Token) := do
  let s ← get
  match s.tokens, s.fault with
  | t :: _, _ => pure (some t)
  | [], some e => throw e
  | [], none => pure none

/-- Takes the next token. -/
def drop : Take Unit := modify fun s => { s with tokens := s.tokens.tail }

/-- Ends in a text that is not YAML. -/
def malformed {α : Type} : Take α := throw .malformed

/-- Takes the next token, which has to be a given one. -/
def expect (t : Token) : Take Unit := do
  if (← peek) == some t then drop else malformed

/-- Takes the next token if it is a given one, and tells whether it was. -/
def accept (t : Token) : Take Bool := do
  if (← peek) == some t then
    drop
    pure true
  else pure false

/-- Whether the next token is one of several. -/
def atAny (ts : List Token) : Take Bool := do
  match ← peek with
  | some t => pure (ts.contains t)
  | none => pure false

/-- Takes an anchor, if one is next. -/
def anchor? : Take (Option String) := do
  match ← peek with
  | some (.anchor name) =>
    drop
    pure (some name)
  | _ => pure none

/-- Takes a tag, if one is next, as its handle and its suffix. -/
def tag? : Take (Option (Option String × String)) := do
  match ← peek with
  | some (.tag handle suffix) =>
    drop
    pure (some (handle, suffix))
  | _ => pure none

/-- The address of a tag: its handle has to have a meaning. -/
def address (handle : Option String) (suffix : String) : Take String := do
  match handle with
  | none => pure suffix
  | some h =>
    match (← get).handles.lookup h with
    | some target => pure (target ++ suffix)
    | none => malformed

/-- Takes the anchor and the address of the tag of a node, in either order. -/
def properties : Take (Option String × Option String) := do
  let before ← anchor?
  let tag ← tag?
  let after ← if before.isNone && tag.isSome then anchor? else pure none
  let tag ← match tag with
    | some (handle, suffix) => do
      let a ← address handle suffix
      pure (some a)
    | none => pure none
  pure (before.or after, tag)

/-- Gives the next number to a node. -/
def add (n : Node) : Take Nat :=
  modifyGet fun s => (s.nodes.size, { s with nodes := s.nodes.push n })

/-- Puts a node in the place of the one with a number. -/
def replace (i : Nat) (n : Node) : Take Unit :=
  modify fun s => { s with nodes := s.nodes.setIfInBounds i n }

/-- Adds a node, under an anchor that no other node has. -/
def addNamed (anchor : Option String) (n : Node) : Take Nat := do
  let i ← add n
  match anchor with
  | none => pure i
  | some a =>
    if ((← get).anchors.lookup a).isSome then malformed
    else
      modify fun s => { s with anchors := (a, i) :: s.anchors }
      pure i

/-- Takes what stands inside a collection, which must not be nested too deeply. -/
def enclosed {α : Type} (inner : Take α) : Take α := do
  if (← get).nesting < maxNesting then
    modify fun s => { s with nesting := s.nesting + 1 }
    let a ← inner
    modify fun s => { s with nesting := s.nesting - 1 }
    pure a
  else throw (.failed .tooNested)

/-- The number of the node with a name. -/
def named (a : String) : Take Nat := do
  match (← get).anchors.lookup a with
  | some i => pure i
  | none => malformed

/-- The tag of a collection: its own, unless it says nothing. -/
def collectionTag (address : Option String) (absent : Tag) : Tag :=
  match address with
  | some a => if a == "!" then absent else Tag.ofAddress a
  | none => absent

/-- The tag of a scalar: a plain one without a tag, and one whose tag says nothing, has that
of its text. -/
def scalarTag (address : Option String) (text : String) (plain : Bool) : Tag :=
  match address with
  | some a => if a == "!" then Tag.ofPlain text else Tag.ofAddress a
  | none => if plain then Tag.ofPlain text else .str

mutual

/-- Takes a node.  Block collections count only where `block`, and a sequence that is not
indented only where `loose`. -/
def node (block loose : Bool) : Nat → Take Nat
  | 0 => malformed
  | n + 1 => do
    match ← peek with
    | some (.reference a) =>
      drop
      named a
    | _ =>
      let (anchor, address) ← properties
      let isSequence (items : Take (List Nat)) : Take Nat := do
        let i ← addNamed anchor (.sequence (collectionTag address .seq) [])
        let items ← enclosed items
        replace i (.sequence (collectionTag address .seq) items)
        pure i
      let isMapping (pairs : Take (List (Nat × Nat))) : Take Nat := do
        let i ← addNamed anchor (.mapping (collectionTag address .map) [])
        let pairs ← enclosed pairs
        replace i (.mapping (collectionTag address .map) pairs)
        pure i
      let isScalar (text : String) (plain : Bool) : Take Nat :=
        addNamed anchor (.scalar (scalarTag address text plain) text)
      match ← peek with
      | some .blockEntry =>
        if loose then isSequence (looseItems n)
        else if anchor.isSome || address.isSome then isScalar "" true
        else malformed
      | some (.scalar text plain) =>
        drop
        isScalar text plain
      | some .openSequence =>
        drop
        isSequence (flowItems true n)
      | some .openMapping =>
        drop
        isMapping (flowPairs true n)
      | some .blockSequence =>
        if block then
          drop
          isSequence (blockItems n)
        else if anchor.isSome || address.isSome then isScalar "" true
        else malformed
      | some .blockMapping =>
        if block then
          drop
          isMapping (blockPairs n)
        else if anchor.isSome || address.isSome then isScalar "" true
        else malformed
      | _ => if anchor.isSome || address.isSome then isScalar "" true else malformed

/-- Takes a node, or the empty one where one of the given tokens is next. -/
def nodeUnless (ends : List Token) (block loose : Bool) : Nat → Take Nat
  | 0 => malformed
  | n + 1 => do
    if ← atAny ends then add Node.empty else node block loose n

/-- Takes the items of a block sequence, and its end. -/
def blockItems : Nat → Take (List Nat)
  | 0 => malformed
  | n + 1 => do
    if ← accept .blockEntry then
      let item ← nodeUnless [.blockEntry, .endBlock] true false n
      let items ← blockItems n
      pure (item :: items)
    else
      expect .endBlock
      pure []

/-- Takes the items of a sequence that is not indented. -/
def looseItems : Nat → Take (List Nat)
  | 0 => malformed
  | n + 1 => do
    if ← accept .blockEntry then
      let item ← nodeUnless [.blockEntry, .key, .value, .endBlock] true false n
      let items ← looseItems n
      pure (item :: items)
    else pure []

/-- Takes the value of a pair, which is empty where no colon is next. -/
def pairValue (ends : List Token) (block loose : Bool) : Nat → Take Nat
  | 0 => malformed
  | n + 1 => do
    if ← accept .value then nodeUnless ends block loose n else add Node.empty

/-- Takes the pairs of a block mapping, and its end. -/
def blockPairs : Nat → Take (List (Nat × Nat))
  | 0 => malformed
  | n + 1 => do
    if ← accept .key then
      let key ← nodeUnless [.key, .value, .endBlock] true true n
      let value ← pairValue [.key, .value, .endBlock] true true n
      let pairs ← blockPairs n
      pure ((key, value) :: pairs)
    else
      expect .endBlock
      pure []

/-- Takes the items of a flow sequence, and its end.  A key among them makes a mapping of
one pair, which is a collection as well. -/
def flowItems (first : Bool) : Nat → Take (List Nat)
  | 0 => malformed
  | n + 1 => do
    if ← accept .closeSequence then pure []
    else
      if !first then expect .flowEntry
      if ← accept .key then
        let pair ← enclosed do
          let key ← nodeUnless [.value, .flowEntry, .closeSequence] false false n
          let value ← pairValue [.flowEntry, .closeSequence] false false n
          pure (key, value)
        let pair ← add (.mapping .map [pair])
        let items ← flowItems false n
        pure (pair :: items)
      else if ← accept .closeSequence then pure []
      else
        let item ← node false false n
        let items ← flowItems false n
        pure (item :: items)

/-- Takes the pairs of a flow mapping, and its end. -/
def flowPairs (first : Bool) : Nat → Take (List (Nat × Nat))
  | 0 => malformed
  | n + 1 => do
    if ← accept .closeMapping then pure []
    else
      if !first then expect .flowEntry
      if ← accept .key then
        let key ← nodeUnless [.value, .flowEntry, .closeMapping] false false n
        let value ← pairValue [.flowEntry, .closeMapping] false false n
        let pairs ← flowPairs false n
        pure ((key, value) :: pairs)
      else if ← accept .closeMapping then pure []
      else
        let key ← node false false n
        let value ← add Node.empty
        let pairs ← flowPairs false n
        pure ((key, value) :: pairs)

end

/-- The handles that every document knows. -/
def standardHandles : List (String × String) := [("!", "!"), ("!!", Tag.nameSpace)]

/-- Takes the directives before a document: one version at most, of the first edition, and
one meaning for each handle. -/
def directives (versioned : Bool) (handles : List (String × String)) : Nat → Take Unit
  | 0 => malformed
  | n + 1 => do
    match ← peek with
    | some (.version major) =>
      if versioned || major != 1 then malformed
      else
        drop
        directives true handles n
    | some (.tagHandle handle target) =>
      if (handles.lookup handle).isSome then malformed
      else
        drop
        directives versioned ((handle, target) :: handles) n
    | some .reserved =>
      drop
      directives versioned handles n
    | _ => modify fun s => { s with handles := handles ++ standardHandles }

/-- Takes the marks of the end of a document. -/
def documentEnds : Nat → Take Unit
  | 0 => pure ()
  | n + 1 => do
    if ← accept .endDocument then documentEnds n

/-- Whether a document begins with a mark or a directive. -/
def beginsExplicitly : Option Token → Bool
  | some .beginDocument | some .reserved | some (.version _) | some (.tagHandle _ _) => true
  | _ => false

/-- Whether a document without a node ends here. -/
def endsDocument (t : Option Token) : Bool :=
  t.isNone || t == some .endDocument || beginsExplicitly t

/-- Refuses whatever follows a document: its directives are looked at first. -/
def expectEnd (n : Nat) : Take Unit := do
  if (← peek).isSome then
    directives false [] n
    let _ ← peek
    malformed

/-- Takes the only document of a text, and gives its outermost node, if there is one. -/
def document (n : Nat) : Take (Option Nat) := do
  let first ← peek
  if first.isNone then pure none
  else
    if beginsExplicitly first then
      directives false [] n
      expect .beginDocument
    let root ←
      if beginsExplicitly first then do
        if endsDocument (← peek) then add Node.empty else node true false n
      else node true false n
    documentEnds n
    expectEnd n
    pure (some root)

end Take

/-- The document of a text, if it holds one. -/
def Graph.ofText (cs : List Char) : Except Fault (Option Graph) :=
  let tokens := scan cs
  let start : Source := ⟨tokens.list, tokens.fault, [], Take.standardHandles, 0, #[]⟩
  ((Take.document (3 * tokens.list.length + 3)).run start).map fun (root, s) =>
    root.map fun i => ⟨s.nodes, i⟩

end Yaml
end Verdict
