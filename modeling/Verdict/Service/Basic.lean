/-
# The service

The service answers requests with its settings, a registry and an evaluator.  It makes the registry and the
evaluator when they are first needed, and keeps them until it is asked to read the rules anew.  At its start
it reads the registry.

| method | address | answer |
| --- | --- | --- |
| `GET` | `/` | the name of the service and its addresses |
| `GET` | `/health` | that it is healthy |
| `GET` | `/rules` | the registered documents in short, by id |
| `GET` | `/rules/id` | one registered document |
| `POST` | `/rules/reload` | the number of documents, read anew |
| `POST` | `/evaluate` | the outcome of rules |
| `POST` | `/eligibility` | an assessment |

A line feed at the end of an address is of no account, except in an id.  An address with a slash
too many or too few is answered with the right one.  A request that names a rule id is about the
registered document, whatever rules it carries.  The answer to the method `HEAD` has no body.
-/

import Verdict.Assessment.Shared
import Verdict.Criteria.Wire
import Verdict.Registry.Basic
import Verdict.Service.Address
import Verdict.Service.Request

namespace Verdict

/-- The state of the service: its settings and its name as they were when it was made, the directory of its
rules, and what there is by now of the registry, the place of the evaluator's catalogue, and catalogues. -/
structure Service where
  settings : Settings
  name : String
  directory : Option Path
  loaded : Option Registry
  engine : Option Nat
  catalogues : Catalogues

namespace Service

/-! ### The registry and the evaluator -/

/-- Whether a failure means that the directory of the rules is missing. -/
def isMissingDirectory : Failure → Bool
  | .directoryMissing _ => true
  | _ => false

/-- Reads a registry from a directory; a missing one has no rules. -/
def readRegistry (fs : Files) (dir : Option Path) : Registry × Reported Unit :=
  let (r, read) := Registry.empty.loadDirectory fs dir
  match read.result with
  | .ok _ => (r, ⟨read.notices, .ok ()⟩)
  | .error e =>
    if isMissingDirectory e then (r, ⟨read.notices ++ [.directoryMissing], .ok ()⟩)
    else (r, ⟨read.notices, .error e⟩)

/-- The registry that there is, one without documents where there is none yet. -/
def registry (s : Service) : Registry := s.loaded.getD .empty

/-- The registry, which is read where there is none yet.  It is kept before the reading ends, so that one
which fails leaves what it has read. -/
def getRegistry (s : Service) (fs : Files) : Service × Reported Registry :=
  match s.loaded with
  | some registry => (s, .done registry)
  | none =>
    let (registry, read) := readRegistry fs s.directory
    ({ s with loaded := some registry }, read.andThen fun _ => .done registry)

/-- The place of the evaluator's catalogue, which is made of the labels in the settings where there is no
evaluator yet. -/
def getEngine (s : Service) : Service × Nat :=
  match s.engine with
  | some place => (s, place)
  | none =>
    let (catalogues, place) := s.catalogues.add s.settings.catalog
    ({ s with engine := some place, catalogues := catalogues }, place)

/-- The service before it starts. -/
def made (settings : Settings) (dir : Option Path) : Service :=
  ⟨settings, settings.appName, dir, none, none, .start⟩

/-- Starts the service: every rule file has to be readable. -/
def start (fs : Files) (dir : Option Path) (env : Environment) : Except Failure Service :=
  match Settings.ofEnvironment env with
  | .error e => .error e
  | .ok settings =>
    let (s, loaded) := (made settings dir).getRegistry fs
    loaded.result.map fun _ => s

/-! ### Answers -/

/-- The version of the service. -/
def version : String := "0.1.0"

/-- The addresses of the service and what they are for. -/
def endpoints : List (String × Value) :=
  [("evaluate", .text "/evaluate - Evaluate a rule document against facts"),
    ("rules", .text "/rules - Registered rule documents"),
    ("eligibility", .text "/eligibility - Eligibility assessment with validation gating")]

/-- What the service says about itself. -/
def about (s : Service) : Value :=
  .object [("name", .text s.name), ("version", .text version), ("endpoints", .object endpoints)]

/-- A group in short. -/
def groupInfo (g : Group) : Value :=
  .object [("id", .text g.id), ("label", .text g.label), ("operator", .text g.operator.word),
    ("conditions", .int g.conditions.length), ("subgroups", .int g.groups.length)]

/-- A registered document in short. -/
def ruleInfo (id : String) (d : Document) : Value :=
  .object [("rule_id", .text id), ("operator", .text d.operator.word), ("empty", .bool d.isEmpty),
    ("groups", .list (d.groups.map groupInfo))]

/-- The registered documents in short, by id. -/
def ruleList (r : Registry) : Value :=
  .object [("rules", .list (r.sorted.map fun e => ruleInfo e.1 e.2)), ("total", .int r.size)]

/-- The most lists and objects that may be nested in an answer's document. -/
def maxShownNesting : Nat := 256

/-- The registered document under an id. -/
def ruleDetail (r : Registry) (id : String) : Reported Response :=
  match r.get? id with
  | none => .done (.noRule id)
  | some d =>
    (Reported.ofOption .tooDeep d.wire?).andThen fun wire =>
      if wire.nesting ≤ maxShownNesting then
        .done (.ok (.object [("rule_id", .text id), ("document", wire)]))
      else .fail .tooDeepToShow

/-- The answer to a reading of the registry. -/
def reloaded (r : Registry) : Value :=
  .object [("status", .text "reloaded"), ("rules_loaded", .int r.size)]

/-- Answers from the registry. -/
def fromRegistry (s : Service) (fs : Files) (answer : Registry → Reported Response) :
    Service × Reported Response :=
  let (s, loaded) := s.getRegistry fs
  (s, loaded.andThen answer)

/-- The document under an id, or the answer that there is none. -/
def registered (r : Registry) (id : String) : Except Response Document :=
  match r.get? id with
  | some d => .ok d
  | none => .error (.noRule id)

/-- The document that a form is about, if it is registered or the rules can be read. -/
def resolve (s : Service) (fs : Files) (form : EvaluationForm) :
    Service × Reported (Except Response Document) :=
  match form.named? with
  | some id =>
    let (s, loaded) := s.getRegistry fs
    (s, loaded.andThen fun registry => .done (registered registry id))
  | none => (s, (Document.read form.rules).andThen fun d => .done (.ok d))

/-- Answers from the document that a form is about, if there is one, and with the evaluator whose catalogue
is at a place. -/
def fromDocument (s : Service) (fs : Files) (form : EvaluationForm)
    (answer : Catalogues → Nat → Document → Catalogues × Reported Value) : Service × Reported Response :=
  let (s, found) := s.resolve fs form
  match found.result with
  | .error e => (s, ⟨found.notices, .error e⟩)
  | .ok (.error response) => (s, ⟨found.notices, .ok response⟩)
  | .ok (.ok d) =>
    let (s, place) := s.getEngine
    let (catalogues, answered) := answer s.catalogues place d
    ({ s with catalogues := catalogues }, found.andThen fun _ => answered.andThen fun v => .done (.ok v))

/-- Answers a request for an evaluation. -/
def evaluate (s : Service) (fs : Files) (form : EvaluationForm) : Service × Reported Response :=
  s.fromDocument fs form fun catalogues place d =>
    let (catalogues, evaluated) := catalogues.evaluateDocument place d form.facts form.labels
    (catalogues, evaluated.andThen fun o => .done o.toValue)

/-- Answers a request for an assessment. -/
def assess (s : Service) (fs : Files) (form : AssessmentForm) : Service × Reported Response :=
  let policy := form.policy.getD s.settings.policy
  s.fromDocument fs form.evaluation fun catalogues place d =>
    let (catalogues, assessed) := policy.assessBy catalogues place d form.evaluation.facts
      (form.failures.map .text) form.evaluation.labels
    (catalogues, assessed.andThen fun a => .done a.toValue)

/-- Answers a request whose body fills in a form. -/
def withForm {α : Type} (s : Service) (r : Request) (ofFields? : List (String × Value) → Option α)
    (misfits : List (String × Value) → List Value) (act : α → Service × Reported Response) :
    Service × Reported Response :=
  match r.bodyFields with
  | .error rejection => (s, rejection.answer)
  | .ok fields =>
    match ofFields? fields with
    | some form => act form
    | none => (s, (Rejection.unfit (misfits fields)).answer)

/-! ### Routes -/

/-- What an address leads to. -/
inductive Route where
  | about
  | health
  | rules
  | rule (id : String)
  | evaluate
  | eligibility
deriving DecidableEq, Repr

/-- What the segments of a path lead to, if they hold no id. -/
def Route.ofSegments? : List String → Option Route
  | [] => some .about
  | ["health"] => some .health
  | ["rules"] => some .rules
  | ["evaluate"] => some .evaluate
  | ["eligibility"] => some .eligibility
  | _ => none

/-- The route to the document whose id the segments of a path hold. -/
def Route.ofId? : List String → Option Route
  | ["rules", id] => if id.isEmpty then none else some (.rule id)
  | _ => none

/-- A text without the line feed at its end. -/
def dropLineFeed (cs : List Char) : List Char :=
  if cs.getLast? == some '\n' then cs.dropLast else cs

/-- What a path leads to. -/
def route? (path : List Char) : Option Route :=
  (Route.ofSegments? (Address.segments (dropLineFeed path))).or
    (Route.ofId? (Address.segments path))

/-- A path with a slash more or less at its end. -/
def otherForm (path : List Char) : List Char :=
  if path.getLast? == some '/' then (path.reverse.dropWhile (· == '/')).reverse else path ++ ['/']

/-- The answer to a path that leads nowhere: the right one, where a slash makes it so. -/
def unrouted (path : List Char) : Response :=
  if (route? (otherForm path)).isSome then ⟨307, none⟩ else .notFound

/-- Gives up the registry and the evaluator, and reads the registry anew. -/
def reload (s : Service) (fs : Files) : Service × Reported Response :=
  { s with loaded := none, engine := none }.fromRegistry fs fun registry =>
    .done (.ok (reloaded registry))

/-- The answer of a route that knows one method. -/
def only (s : Service) (known method : String) (answer : Service × Reported Response) :
    Service × Reported Response :=
  if method == known then answer else (s, .done .methodNotAllowed)

/-- The answer to a question about the service's health. -/
def healthy : Value := .object [("status", .text "healthy")]

/-- Answers a request to a route. -/
def respond (s : Service) (fs : Files) (r : Request) (method : String) :
    Route → Service × Reported Response
  | .about => s.only "GET" method (s, .done (.ok s.about))
  | .health => s.only "GET" method (s, .done (.ok healthy))
  | .rules => s.only "GET" method (s.fromRegistry fs fun registry => .done (.ok (ruleList registry)))
  | .rule id =>
    if method == "POST" && (id == "reload" || id == "reload\n") then s.reload fs
    else s.only "GET" method (s.fromRegistry fs fun registry => ruleDetail registry id)
  | .evaluate =>
    s.only "POST" method
      (s.withForm r EvaluationForm.ofFields? EvaluationForm.misfits (s.evaluate fs))
  | .eligibility =>
    s.only "POST" method
      (s.withForm r AssessmentForm.ofFields? AssessmentForm.misfits (s.assess fs))

/-- An answer as a method asks for it. -/
def forMethod (method : String) (response : Response) : Response :=
  if method == "HEAD" then { response with body := none } else response

/-- Answers a request to a path. -/
def serve (s : Service) (fs : Files) (r : Request) (method : String) (path : List Char) :
    Service × Reported Response :=
  let (s, answered) := match route? path with
    | some route => s.respond fs r method route
    | none => (s, .done (unrouted path))
  (s, answered.andThen fun response => .done (forMethod method response))

/-- The capitals of one character of a method: a long s is an S, alone and in a ligature. -/
def methodChar (c : Char) : List Char :=
  if c == '\u017F' then ['S']
  else if c == '\uFB05' || c == '\uFB06' then ['S', 'T']
  else [Text.upperChar c]

/-- The name of a method in capitals. -/
def methodName (method : String) : String := String.ofList (method.toList.flatMap methodChar)

/-- Answers a request, with the files as they are now: its content type is looked at once its
address has parts. -/
def handle (s : Service) (fs : Files) (r : Request) : Service × Reported Response :=
  match Address.pathOf r.address with
  | .error e => (s, .fail (if e == .badAddress || r.hasPlainHeader then e else .headerText))
  | .ok path =>
    if r.hasPlainHeader then s.serve fs r (methodName r.method) path
    else (s, .fail .headerText)

end Service
end Verdict
