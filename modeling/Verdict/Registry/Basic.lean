/-
# The registry of rule documents

Rule files are read into a registry, which keeps each document under the stem of its file's
name, in the order in which the stems first came.

| suffix of the file | its text is read as |
| --- | --- |
| `.yaml`, `.yml` | YAML, whose value describes the document |
| anything else | JSON |

A directory is read file by file, in the order of the names; only files with the suffix
`.json`, `.yaml` or `.yml` count.  A file that cannot be opened is passed over with a notice.
Any other failure ends the reading, and what was registered before it stays.
-/

import Verdict.Criteria.Reading
import Verdict.Registry.Files
import Verdict.Yaml.Reader

namespace Verdict

/-- A text with every line ended by a line feed. -/
def withLineFeeds : List Char → List Char
  | '\r' :: '\n' :: r => '\n' :: withLineFeeds r
  | '\r' :: r => '\n' :: withLineFeeds r
  | c :: r => c :: withLineFeeds r
  | [] => []

/-- The suffixes of YAML files. -/
def yamlSuffixes : List String := [".yaml", ".yml"]

/-- The suffixes of rule files. -/
def ruleSuffixes : List String := ".json" :: yamlSuffixes

/-- The depth to which the value of a YAML text is unfolded: no document that can be read from a
value has parts any deeper. -/
def yamlDepth : Nat := 2 * maxDepth + 8

/-- The document of a YAML text in a file of a given name. -/
def Document.ofYaml (name : String) (cs : List Char) : Reported Document :=
  match Yaml.read yamlDepth cs with
  | .ok v => Document.read v
  | .error (.failed e) => .fail e
  | .error .malformed => Document.unusable (.fileUnparseable name)

/-- The document of the text of a file of a given name. -/
def Document.ofFileText (name : String) (cs : List Char) : Reported Document :=
  if yamlSuffixes.contains (Path.suffix name) then Document.ofYaml name cs
  else Document.ofText (String.ofList cs)

/-- The document of the bytes of a file of a given name: an empty one is worth a notice. -/
def Document.ofFile (name : String) (bytes : List UInt8) : Reported Document :=
  match Text.Utf8.decode bytes with
  | none => .fail .notUtf8
  | some cs =>
    (Document.ofFileText name (withLineFeeds cs)).andThen fun d =>
      if d.isEmpty then (Reported.note (.fileEmpty name)).andThen fun _ => .done d else .done d

/-- The document of the file at a path. -/
def Files.document (fs : Files) (p : Path) : Reported Document :=
  match fs.find? p with
  | none => .fail (if fs.isTooLong p then .nameTooLong else .fileMissing p.text)
  | some .directory => .fail .isDirectory
  | some (.file bytes) => Document.ofFile p.name bytes

/-- Documents under their ids, in the order in which the ids first came. -/
structure Registry where
  rules : List (String × Document)

namespace Registry

/-- The registry without documents. -/
def empty : Registry := ⟨[]⟩

/-- Puts a document in the place of the one with its id, or at the end. -/
def putRule (id : String) (d : Document) : List (String × Document) → List (String × Document)
  | [] => [(id, d)]
  | (k, old) :: r => if k = id then (k, d) :: r else (k, old) :: putRule id d r

/-- The registry with a document under an id. -/
def put (r : Registry) (id : String) (d : Document) : Registry := ⟨putRule id d r.rules⟩

/-- The document under an id. -/
def get? (r : Registry) (id : String) : Option Document := r.rules.lookup id

/-- The ids in the order in which they came. -/
def ids (r : Registry) : List String := r.rules.map (·.1)

/-- The ids in the order of their characters. -/
def sortedIds (r : Registry) : List String := r.ids.mergeSort fun a b => !(b < a)

/-- The documents in the order of the characters of their ids. -/
def sorted (r : Registry) : List (String × Document) := r.rules.mergeSort fun a b => !(b.1 < a.1)

/-- The number of documents. -/
def size (r : Registry) : Nat := r.rules.length

/-- Reads the file at a path: a failure leaves the registry as it was. -/
def loadFile (fs : Files) (p : Path) (r : Registry) : Registry × Reported Document :=
  let read := fs.document p
  match read.result with
  | .ok d => (r.put (Path.stem p.name) d, read)
  | .error _ => (r, read)

/-- Whether a failure means that a file or a directory cannot be opened. -/
def isUnreadable : Failure → Bool
  | .fileMissing _ | .directoryMissing _ | .isDirectory | .notDirectory | .nameTooLong => true
  | _ => false

/-- Reads the files of given names in a directory, after those that gave `found`. -/
def loadAll (fs : Files) (dir : Path) (r found : Registry) :
    List String → Registry × Reported Registry
  | [] => (r, (Reported.note (.loaded found.size)).andThen fun _ => .done found)
  | name :: rest =>
    let read := fs.document (dir ++ [name])
    match read.result with
    | .ok d =>
      let id := Path.stem name
      let (r, more) := loadAll fs dir (r.put id d) (found.put id d) rest
      (r, ⟨read.notices ++ more.notices, more.result⟩)
    | .error e =>
      if isUnreadable e then
        let (r, more) := loadAll fs dir r found rest
        (r, ⟨read.notices ++ .fileUnreadable name :: more.notices, more.result⟩)
      else (r, ⟨read.notices, .error e⟩)

/-- The names of the rule files in a directory. -/
def ruleNames (fs : Files) (dir : Path) : List String :=
  (fs.names dir).filter fun name => ruleSuffixes.contains (Path.suffix name)

/-- Reads the rule files of a directory, and gives the documents that they hold. -/
def loadDirectory (fs : Files) (dir : Option Path) (r : Registry) : Registry × Reported Registry :=
  match dir with
  | none => (r, .fail .noDirectory)
  | some p =>
    match fs.find? p with
    | none => (r, .fail (if fs.isTooLong p then .nameTooLong else .directoryMissing p.text))
    | some (.file _) => (r, .fail .notDirectory)
    | some .directory => loadAll fs p r empty (ruleNames fs p)

end Registry
end Verdict
