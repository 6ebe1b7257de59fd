/-
# Sessions

A session begins when the service starts.  From then on requests come in, and the files that the
service can read change under it.

| event | changes | is answered |
| --- | --- | --- |
| a request | what the service makes of it | yes |
| a file or a directory is written | the files | no |
| a file or a directory is removed | the files | no |

An answer can be written out only if no surrogate stands alone in it.  Texts come into a session by its
variables, its rule files and the bodies of its requests, and `Begins` describes the sessions in which none
of these names such a surrogate.  An integer is taken to be written out however many digits it has.
-/

import Verdict.Service.Basic

namespace Verdict

/-- A running service, and the files as they are. -/
structure Session where
  service : Service
  files : Files

namespace Session

/-- What may happen in a session. -/
inductive Event where
  | call (request : Request)
  | write (path : Path) (node : FileNode)
  | remove (path : Path)

/-- The session that begins with the start of the service, if it can start. -/
def start (fs : Files) (dir : Option Path) (env : Environment) : Except Failure Session :=
  (Service.start fs dir env).map fun service => ⟨service, fs⟩

/-- The session after an event, and the answer to a request. -/
def step (s : Session) : Event → Session × Option (Reported Response)
  | .call r =>
    let (service, answer) := s.service.handle s.files r
    (⟨service, s.files⟩, some answer)
  | .write path node => (⟨s.service, s.files.write path node⟩, none)
  | .remove path => (⟨s.service, s.files.remove path⟩, none)

/-- The session after some events. -/
def after (s : Session) (events : List Event) : Session := events.foldl (fun s e => (s.step e).1) s

end Session

/-! ### Texts that can be written out -/

/-- Whether every surrogate that the body of a request names is one of a pair. -/
def Request.surrogatesPaired (r : Request) : Bool := Json.bytesPaired r.body

/-- Whether every surrogate that a file of a given name adds to the rules is one of a pair. -/
def FileNode.surrogatesPaired (name : String) : FileNode → Bool
  | .directory => true
  | .file bytes =>
    match Text.Utf8.decode bytes with
    | none => true
    | some cs =>
      if yamlSuffixes.contains (Path.suffix name) then Yaml.isFreeOfSurrogates cs
      else !ruleSuffixes.contains (Path.suffix name) || Json.surrogatesPaired cs

/-- Whether this is so of all files. -/
def Files.surrogatesPaired (fs : Files) : Bool :=
  fs.nodes.all fun e => e.2.surrogatesPaired (Path.name e.1)

/-- Whether every surrogate that the settings of an environment take up is one of a pair. -/
def Settings.surrogatesPaired (env : Environment) : Bool :=
  ["parameters_considered", "token_labels"].all fun setting =>
    (textUnder? env setting).all fun s => Json.surrogatesPaired s.toList

namespace Session

/-- Whether every surrogate that an event brings is one of a pair. -/
def Event.surrogatesPaired : Event → Bool
  | .call r => r.surrogatesPaired
  | .write path node => node.surrogatesPaired path.name
  | .remove _ => true

/-- Whether a session begins with some files, a directory and an environment, and goes on with some events,
where no surrogate is named that is not one of a pair. -/
structure Begins (fs : Files) (dir : Option Path) (env : Environment) (events : List Event)
    (s : Session) : Prop where
  starts : start fs dir env = .ok s
  files : fs.surrogatesPaired = true
  environment : Settings.surrogatesPaired env = true
  events : ∀ e ∈ events, e.surrogatesPaired = true

end Session
end Verdict
