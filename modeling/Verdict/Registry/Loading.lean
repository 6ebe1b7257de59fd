/-
# Loading into a registry

A registry begins without documents.  Then files and directories are loaded into it, in any order and
as often as one likes, it is asked for its documents, and the files change under it.

| event | changes | is answered with |
| --- | --- | --- |
| a file is loaded | the registry, if the file can be read | its document |
| a directory is loaded, the registry's own or another one | the registry | the documents in it |
| an id is looked up | nothing | its document, if it has one |
| the ids are asked for | nothing | the ids, in order |
| all documents are asked for | nothing | the documents with their ids |
| a file or a directory is written or removed | the files | nothing |
-/

import Verdict.Registry.Basic

namespace Verdict

/-- A registry with its directory, and the files as they are. -/
structure Loading where
  directory : Option Path
  registry : Registry
  files : Files

namespace Loading

/-- What may happen while a registry is loaded. -/
inductive Event where
  | loadFile (path : Path)
  | loadDirectory (path : Option Path)
  | find (id : String)
  | ids
  | all
  | write (path : Path) (node : FileNode)
  | remove (path : Path)

/-- What an event is answered with. -/
inductive Answer where
  | file (read : Reported Document)
  | directory (read : Reported Registry)
  | found (document : Option Document)
  | ids (ids : List String)
  | all (rules : List (String × Document))

/-- The registry of a directory before anything is loaded. -/
def start (fs : Files) (dir : Option Path) : Loading := ⟨dir, .empty, fs⟩

/-- What an event leaves, and its answer. -/
def step (s : Loading) : Event → Loading × Option Answer
  | .loadFile path =>
    let (registry, read) := s.registry.loadFile s.files path
    ({ s with registry := registry }, some (.file read))
  | .loadDirectory path =>
    let (registry, read) := s.registry.loadDirectory s.files (path.or s.directory)
    ({ s with registry := registry }, some (.directory read))
  | .find id => (s, some (.found (s.registry.get? id)))
  | .ids => (s, some (.ids s.registry.sortedIds))
  | .all => (s, some (.all s.registry.rules))
  | .write path node => ({ s with files := s.files.write path node }, none)
  | .remove path => ({ s with files := s.files.remove path }, none)

/-- What some events leave. -/
def after (s : Loading) (events : List Event) : Loading := events.foldl (fun s e => (s.step e).1) s

end Loading
end Verdict
