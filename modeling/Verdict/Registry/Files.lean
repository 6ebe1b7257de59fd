/-
# Files

A tree of files is given by the places of its files and directories.  A place is a list of
names, from the top of the tree downwards; the top itself is a directory.  No name and no path is
longer than a file system allows.

A path leads from the top to a place, name by name: every name but the last has to be that of a
directory, and two points lead back.  What is outside of the tree is of no account.

| text of a path | names |
| --- | --- |
| `a/b.json` | `a`, `b.json` |
| `./a//b` | `a`, `b` |
| `a/../b` | `a`, `..`, `b` |
| `/b` | `/`, `b` |

The suffix of a name begins with its last point, unless that stands first or last in the
name; the stem is what is left of the name without it.
-/

import Verdict.Text.Letters
import Verdict.Text.Split

namespace Verdict

/-- The names on the way from the top of a tree. -/
abbrev Path := List String

namespace Path

/-- The path that a text writes: a name `/` at its front leads out of the tree. -/
def ofText (s : String) : Path :=
  let names := ((Text.splitOn '/' s.toList).map String.ofList).filter fun n => n != "" && n != "."
  if s.toList.head? == some '/' then "/" :: names else names

/-- The text of a path. -/
def text (p : Path) : String :=
  match p with
  | "/" :: names => "/" ++ "/".intercalate names
  | names => "/".intercalate names

/-- The last name of a path. -/
def name (p : Path) : String := p.getLast?.getD ""

/-- The stem and the suffix of a name. -/
def stemAndSuffix (name : String) : List Char × List Char :=
  match Text.splitLast? '.' name.toList with
  | some (before, after) =>
    if before.isEmpty || after.isEmpty then (name.toList, []) else (before, '.' :: after)
  | none => (name.toList, [])

/-- The stem of a name. -/
def stem (name : String) : String := String.ofList (stemAndSuffix name).1

/-- The suffix of a name, in small letters. -/
def suffix (name : String) : String := String.ofList (Text.lower (stemAndSuffix name).2)

end Path

/-- What stands at a place: a directory, or a file with its bytes. -/
inductive FileNode where
  | directory
  | file (bytes : List UInt8)
deriving DecidableEq, Repr

/-- A tree of files: what stands at the places below its top. -/
structure Files where
  nodes : List (List String × FileNode)

/-- Where a path has led to. -/
inductive Spot where
  | inside (place : List String)
  | outside
deriving DecidableEq, Repr

namespace Files

/-- The tree without files. -/
def empty : Files := ⟨[]⟩

/-- What stands at a place. -/
def nodeAt? (fs : Files) (place : List String) : Option FileNode :=
  if place.isEmpty then some .directory else fs.nodes.lookup place

/-- What stands where a path has led to. -/
def nodeOf? (fs : Files) : Spot → Option FileNode
  | .inside place => fs.nodeAt? place
  | .outside => some .directory

/-- Where one more name leads to, if there is anything. -/
def step? (fs : Files) (spot : Spot) (name : String) : Option Spot :=
  match spot with
  | .outside => if name == "/" || name == ".." then some .outside else none
  | .inside place =>
    if fs.nodeAt? place != some .directory then none
    else if name == "/" then some .outside
    else if name == ".." then some (if place.isEmpty then .outside else .inside place.dropLast)
    else if (fs.nodeAt? (place ++ [name])).isSome then some (.inside (place ++ [name]))
    else none

/-- Where a path leads to, if there is anything. -/
def locate? (fs : Files) (p : Path) : Option Spot := p.foldlM fs.step? (.inside [])

/-- What stands at the end of a path. -/
def find? (fs : Files) (p : Path) : Option FileNode := (fs.locate? p).bind fs.nodeOf?

/-- The most bytes that a name may have. -/
def maxNameSize : Nat := 255

/-- The most bytes that a path may have. -/
def maxPathSize : Nat := 4095

/-- The first name of a path that is missing in a directory. -/
def missing? (fs : Files) : Spot → Path → Option String
  | _, [] => none
  | spot, name :: names =>
    match fs.step? spot name with
    | some next => fs.missing? next names
    | none => if fs.nodeOf? spot == some .directory then some name else none

/-- Whether a path is too long to lead anywhere, or the name that it lacks is. -/
def isTooLong (fs : Files) (p : Path) : Bool :=
  maxPathSize < p.text.utf8ByteSize ||
    (fs.missing? (.inside []) p).any fun name => maxNameSize < name.utf8ByteSize

/-- Puts a node at a place, instead of what stands there. -/
def put (fs : Files) (place : List String) (node : FileNode) : Files :=
  ⟨(place, node) :: fs.nodes.filter fun e => e.1 != place⟩

/-- Makes the directory that one more name leads to, if it is missing. -/
def makeStep (found : Files × Spot) (name : String) : Files × Spot :=
  match found.1.step? found.2 name, found.2 with
  | some spot, _ => (found.1, spot)
  | none, .inside place => (found.1.put (place ++ [name]) .directory, .inside (place ++ [name]))
  | none, .outside => found

/-- Writes a node at the end of a path, with the directories on the way there. -/
def write (fs : Files) (p : Path) (node : FileNode) : Files :=
  match p.dropLast.foldl makeStep (fs, .inside []), p.getLast? with
  | (fs, .inside place), some name => fs.put (place ++ [name]) node
  | (fs, _), _ => fs

/-- Removes what stands at the end of a path and below it. -/
def remove (fs : Files) (p : Path) : Files :=
  match fs.locate? p with
  | some (.inside place) => ⟨fs.nodes.filter fun e => !place.isPrefixOf e.1⟩
  | _ => fs

/-- The names that stand in the directory at the end of a path, in the order of their
characters. -/
def names (fs : Files) (p : Path) : List String :=
  match fs.locate? p with
  | some (.inside place) =>
    let inside := fs.nodes.filter fun e => !e.1.isEmpty && e.1.dropLast == place
    (inside.map fun e => Path.name e.1).mergeSort fun a b => !(b < a)
  | _ => []

end Files

example : Path.ofText "./a//b.c.json" = ["a", "b.c.json"] := by decide +kernel
example : Path.text (Path.ofText "/a/../b/") = "/a/../b" := by decide +kernel
example : Path.stem "b.c.json" = "b.c" ∧ Path.suffix "b.c.JSON" = ".json" := by decide +kernel
example : Path.stem ".json" = ".json" ∧ Path.suffix "t.json." = "" := by decide +kernel

end Verdict
