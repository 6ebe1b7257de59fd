/-
# What requests leave of the service

A service that has started has a registry, and makes an evaluator for the first form that is about a
document.  The evaluator is shared from then on, and every form with labels makes catalogues beside its own.

| what comes | the registry | the evaluator | the catalogues |
| --- | --- | --- | --- |
| a request to read the rules anew | that of the directory | is given up | stay |
| a form that is about a document | stays | stays, or is made | stay, and more are made |
| any other request | stays | stays | stay |

So the service does change with its requests (`Service.handle_keeps`).  What it keeps is that its evaluator has
the labels of the settings (`Service.Ready`), and then forms are answered from the settings and the registry
alone (`Service.evaluate_of_ready`, `Service.assess_of_ready`).
-/

import Verdict.Proofs.Overlays
import Verdict.Service.Session

namespace Verdict

/-! ### Assessments by a shared evaluator -/

namespace Policy

variable (p : Policy) {c : Catalogues} {engine : Nat} {own : Labels} (d : Document)
  (failures : List Value) (labels : Value)

/-- An assessment by a shared evaluator is the one by its catalogue, as if nobody had used it before. -/
theorem assessedBy_eq (h : c.made[engine]? = some own) (facts : FactTable) :
    (p.assessedBy c engine d facts failures labels).2 =
      p.assessed own (.done d) facts failures labels := by
  -- The second overlay is laid over what the first one left, where the evaluator's catalogue still stands.
  have hkept := Catalogues.getElem?_of_isPrefix h (Catalogues.isPrefix_forCall c engine labels)
  have hevaluated := Catalogues.forCall_andThen c engine labels fun catalog => d.evaluate facts catalog
  have hshown := fun outcome => Catalogues.forCall_andThen (c.forCall engine labels).1 engine labels
    fun catalog => p.concluded facts failures outcome catalog
  rw [Catalogues.get_of_getElem? h] at hevaluated
  simp only [Catalogues.get_of_getElem? hkept] at hshown
  unfold assessedBy
  dsimp only
  rw [hevaluated, assessed, Reported.done_andThen]
  unfold suppliedLabels at hshown ⊢
  cases hlabels : own.overlay? labels with
  | none => rfl
  | some catalog =>
      rw [hlabels] at hshown
      simp only [Reported.ofOption, Reported.done_andThen] at hshown ⊢
      obtain ⟨notices, error | outcome⟩ := d.evaluate facts catalog
      · rfl
      · dsimp only
        rw [hshown]
        rfl

theorem assessBy_eq (h : c.made[engine]? = some own) (facts : Value) :
    (p.assessBy c engine d facts failures labels).2 =
      p.assess own (.done d) facts failures labels := by
  unfold assessBy assess suppliedFacts
  cases FactTable.ofValue? facts with
  | none => rfl
  | some table =>
      rw [Reported.ofOption, Reported.done_andThen]
      dsimp only
      split
      · rfl
      · exact p.assessedBy_eq d failures labels h table

/-- It leaves the catalogues that there are. -/
theorem isPrefix_assessBy (facts : Value) :
    c.made <+: (p.assessBy c engine d facts failures labels).1.made := by
  have hfirst := Catalogues.isPrefix_forCall c engine labels
  unfold assessBy
  split
  · exact List.prefix_rfl
  · split
    · exact List.prefix_rfl
    · unfold assessedBy
      dsimp only
      split
      · exact hfirst
      · exact hfirst.trans (Catalogues.isPrefix_forCall _ engine labels)

end Policy

/-! ### What forms are answered with -/

/-- The document that a form is about in a registry: the one under the rule id that it names, or else the one
that its rules stand for. -/
def EvaluationForm.found (form : EvaluationForm) (registry : Registry) :
    Reported (Except Response Document) :=
  match form.named? with
  | some id => .done (Service.registered registry id)
  | none => (Document.read form.rules).andThen fun d => .done (.ok d)

/-- The answer to a form by the payload of the document that it is about. -/
def EvaluationForm.answered (form : EvaluationForm) (registry : Registry)
    (payload : Document → Reported Value) : Reported Response :=
  (form.found registry).andThen fun
    | .error response => .done response
    | .ok d => (payload d).andThen fun v => .done (.ok v)

/-- The payload of an evaluation of a document for a form. -/
def Settings.evaluation (settings : Settings) (form : EvaluationForm) (d : Document) : Reported Value :=
  (d.evaluateSupplied settings.catalog form.facts form.labels).andThen fun o => .done o.toValue

/-- The payload of an assessment by a document for a form. -/
def Settings.assessment (settings : Settings) (form : AssessmentForm) (d : Document) : Reported Value :=
  ((Assessor.mk settings.catalog settings.policy).assess form.policy (.done d) form.evaluation.facts
    (form.failures.map .text) form.evaluation.labels).andThen fun a => .done a.toValue

/-! ### Services that are ready -/

namespace Service

/-- Whether a service has a registry, and no evaluator or one that has the labels of the settings for its
catalogue. -/
structure Ready (s : Service) : Prop where
  loaded : s.loaded = some s.registry
  engine : ∀ place, s.engine = some place → s.catalogues.made[place]? = some s.settings.catalog

/-- Whether a service becomes another one that is ready, with what it was made with. -/
structure Becomes (s t : Service) : Prop where
  settings : t.settings = s.settings
  name : t.name = s.name
  directory : t.directory = s.directory
  ready : t.Ready

/-- Whether it keeps everything else as well: there may be an evaluator where there was none, and more
catalogues. -/
structure Keeps (s t : Service) : Prop extends Becomes s t where
  loaded : t.loaded = s.loaded
  engine : ∀ place, s.engine = some place → t.engine = some place
  catalogues : s.catalogues.made <+: t.catalogues.made

variable {s t u : Service} (fs : Files)

theorem Becomes.trans (h : s.Becomes t) (h' : t.Becomes u) : s.Becomes u where
  settings := h'.settings.trans h.settings
  name := h'.name.trans h.name
  directory := h'.directory.trans h.directory
  ready := h'.ready

namespace Keeps

theorem refl (h : s.Ready) : s.Keeps s := ⟨⟨rfl, rfl, rfl, h⟩, rfl, fun _ => id, List.prefix_rfl⟩

theorem trans (h : s.Keeps t) (h' : t.Keeps u) : s.Keeps u where
  toBecomes := h.toBecomes.trans h'.toBecomes
  loaded := h'.loaded.trans h.loaded
  engine place hplace := h'.engine place (h.engine place hplace)
  catalogues := h.catalogues.trans h'.catalogues

theorem registry (h : s.Keeps t) : t.registry = s.registry := by
  rw [Service.registry, h.loaded]
  rfl

/-- More catalogues make no difference. -/
theorem grown (h : s.Keeps t) {more : Catalogues} (hmore : t.catalogues.made <+: more.made) :
    s.Keeps { t with catalogues := more } where
  settings := h.settings
  name := h.name
  directory := h.directory
  ready := ⟨h.ready.loaded, fun place hplace =>
    Catalogues.getElem?_of_isPrefix (h.ready.engine place hplace) hmore⟩
  loaded := h.loaded
  engine := h.engine
  catalogues := h.catalogues.trans hmore

end Keeps

/-! ### The registry and the evaluator of a service that is ready -/

section
variable (h : s.Ready)
include h

theorem getRegistry_of_ready : s.getRegistry fs = (s, .done s.registry) := by
  rw [getRegistry, h.loaded]

theorem fromRegistry_of_ready (answer : Registry → Reported Response) :
    s.fromRegistry fs answer = (s, answer s.registry) := by
  rw [fromRegistry, getRegistry_of_ready fs h]
  exact congrArg _ (Reported.done_andThen _ _)

theorem resolve_of_ready (form : EvaluationForm) :
    s.resolve fs form = (s, form.found s.registry) := by
  unfold resolve EvaluationForm.found
  cases form.named? with
  | none => rfl
  | some id =>
      rw [getRegistry_of_ready fs h]
      dsimp only
      rw [Reported.done_andThen]

/-- The evaluator that there is stays, and one that is made has the labels of the settings. -/
theorem getEngine_of_ready :
    s.Keeps s.getEngine.1 ∧ s.getEngine.1.engine = some s.getEngine.2 := by
  unfold getEngine
  cases hengine : s.engine with
  | some place => exact ⟨.refl h, hengine⟩
  | none =>
      refine ⟨⟨⟨rfl, rfl, rfl, h.loaded, fun place hplace => ?_⟩, rfl, fun place hplace => ?_,
        List.prefix_append ..⟩, rfl⟩
      · obtain rfl := Option.some.inj hplace
        exact (List.getElem?_append_right (Nat.le_refl _)).trans (by simp)
      · cases hengine.symm.trans hplace

/-- A form is answered from the registry, with what is made of its document for the labels of the settings. -/
theorem fromDocument_of_ready (form : EvaluationForm)
    {answer : Catalogues → Nat → Document → Catalogues × Reported Value}
    {payload : Document → Reported Value}
    (hgrows : ∀ c place d, c.made <+: (answer c place d).1.made)
    (hpayload : ∀ c place d, c.made[place]? = some s.settings.catalog →
      (answer c place d).2 = payload d) :
    (s.fromDocument fs form answer).2 = form.answered s.registry payload ∧
      s.Keeps (s.fromDocument fs form answer).1 := by
  unfold fromDocument EvaluationForm.answered
  rw [resolve_of_ready fs h]
  obtain ⟨notices, error | response | d⟩ := form.found s.registry
  · exact ⟨rfl, .refl h⟩
  · refine ⟨?_, .refl h⟩
    dsimp only [Reported.andThen, Reported.done]
    rw [List.append_nil]
  · obtain ⟨hkeeps, hengine⟩ := getEngine_of_ready h
    have hcatalog := hkeeps.settings ▸ hkeeps.ready.engine _ hengine
    refine ⟨?_, hkeeps.grown (hgrows _ _ d)⟩
    dsimp only
    rw [hpayload _ _ d hcatalog]
    rfl

/-- **A form for an evaluation** is answered by what its document comes to. -/
theorem evaluate_of_ready (form : EvaluationForm) :
    (s.evaluate fs form).2 = form.answered s.registry (s.settings.evaluation form) ∧
      s.Keeps (s.evaluate fs form).1 := by
  refine fromDocument_of_ready fs h form (fun c place d => ?_) fun c place d hc => ?_
  · exact Catalogues.isPrefix_forCall c place form.labels
  · dsimp only
    rw [Catalogues.evaluateDocument_eq, Catalogues.get_of_getElem? hc]
    rfl

/-- **A form for an assessment** is answered by the assessment by its document. -/
theorem assess_of_ready (form : AssessmentForm) :
    (s.assess fs form).2 = form.evaluation.answered s.registry (s.settings.assessment form) ∧
      s.Keeps (s.assess fs form).1 := by
  refine fromDocument_of_ready fs h form.evaluation (fun c place d => ?_) fun c place d hc => ?_
  · exact Policy.isPrefix_assessBy ..
  · dsimp only
    rw [Policy.assessBy_eq _ d _ _ hc]
    rfl

end
end Service

/-! ### Requests and their routes -/

/-- Whether a request goes to a route with a method. -/
structure Request.Asks (r : Request) (method : String) (route : Service.Route) : Prop where
  plain : r.hasPlainHeader = true
  name : Service.methodName r.method = method
  address : ∃ path, Address.pathOf r.address = .ok path ∧ Service.route? path = some route

/-- The routes under which the registry is read anew. -/
def Service.reloadRoutes : List Service.Route := [.rule "reload", .rule "reload\n"]

/-- Whether a request asks for the registry to be read anew. -/
def Request.reloads (r : Request) : Bool :=
  match Address.pathOf r.address with
  | .ok path =>
    r.hasPlainHeader && Service.methodName r.method == "POST" &&
      (Service.route? path).any Service.reloadRoutes.contains
  | .error _ => false

theorem Request.reloads_iff {r : Request} :
    r.reloads = true ↔ ∃ route ∈ Service.reloadRoutes, r.Asks "POST" route := by
  unfold reloads
  constructor
  · intro h
    split at h
    · next path hpath =>
      simp only [Bool.and_eq_true, beq_iff_eq, Option.any_eq_true, List.contains_iff_mem] at h
      obtain ⟨⟨hplain, hname⟩, route, hroute, hmem⟩ := h
      exact ⟨route, hmem, hplain, hname, path, hpath, hroute⟩
    · cases h
  · rintro ⟨route, hmem, hplain, hname, path, hpath, hroute⟩
    rw [hpath]
    simp only [hplain, hname, hroute, Option.any_some, List.contains_iff_mem.mpr hmem, beq_self_eq_true,
      Bool.and_self]

namespace Service

variable (s : Service) (fs : Files) {r : Request}

/-- A request is answered by its route; only a method without bodies changes the answer. -/
theorem handle_of_asks {method : String} {route : Route} (h : r.Asks method route)
    (hm : method ≠ "HEAD") : s.handle fs r = s.respond fs r method route := by
  obtain ⟨path, hpath, hroute⟩ := h.address
  have hshown : (fun response => Reported.done (forMethod method response)) = Reported.done := by
    funext response
    rw [forMethod, if_neg (by simpa using hm)]
  rw [handle, hpath]
  simp only [h.plain, if_true, h.name, serve, hroute, hshown, Reported.andThen_done]

/-- A request to read the registry anew is answered by reading it. -/
theorem handle_of_reloads (h : r.reloads = true) : s.handle fs r = s.reload fs := by
  obtain ⟨route, hmem, hasks⟩ := Request.reloads_iff.mp h
  rw [s.handle_of_asks fs hasks (by decide)]
  simp only [reloadRoutes, List.mem_cons, List.not_mem_nil, or_false] at hmem
  rcases hmem with rfl | rfl <;> rfl

/-- What reading the registry anew leaves: the registry of the directory, and no evaluator. -/
theorem reload_eq : s.reload fs =
    ({ s with loaded := some (readRegistry fs s.directory).1, engine := none },
      (readRegistry fs s.directory).2.andThen fun _ =>
        .done (.ok (reloaded (readRegistry fs s.directory).1))) := by
  simp only [reload, fromRegistry, getRegistry]
  obtain ⟨registry, notices, error | u⟩ := readRegistry fs s.directory
  · rfl
  · simp only [Reported.andThen, Reported.done, List.append_nil]

theorem becomes_reload : s.Becomes (s.reload fs).1 := by
  rw [reload_eq]
  exact ⟨rfl, rfl, rfl, rfl, nofun⟩

/-! ### Every other request -/

variable {s}

section
variable (h : s.Ready)
include h

theorem keeps_only {known method : String} {answer : Service × Reported Response}
    (ha : s.Keeps answer.1) : s.Keeps (s.only known method answer).1 := by
  unfold only
  split
  · exact ha
  · exact .refl h

theorem keeps_withForm {α : Type} {ofFields? : List (String × Value) → Option α}
    {misfits : List (String × Value) → List Value} {act : α → Service × Reported Response}
    (hact : ∀ form, s.Keeps (act form).1) : s.Keeps (s.withForm r ofFields? misfits act).1 := by
  unfold withForm
  split
  · exact .refl h
  · split
    · exact hact _
    · exact .refl h

/-- A route keeps the service, unless it reads the registry anew. -/
theorem keeps_respond {method : String} {route : Route}
    (hroute : ¬ (method = "POST" ∧ route ∈ reloadRoutes)) :
    s.Keeps (s.respond fs r method route).1 := by
  cases route with
  | about => exact keeps_only h (.refl h)
  | health => exact keeps_only h (.refl h)
  | rules =>
      refine keeps_only h ?_
      rw [fromRegistry_of_ready fs h]
      exact .refl h
  | rule id =>
      dsimp only [respond]
      split
      · next hreload =>
        simp only [Bool.and_eq_true, Bool.or_eq_true, beq_iff_eq] at hreload
        obtain ⟨rfl, hid⟩ := hreload
        refine absurd ⟨rfl, ?_⟩ hroute
        rcases hid with rfl | rfl <;> simp [reloadRoutes]
      · refine keeps_only h ?_
        rw [fromRegistry_of_ready fs h]
        exact .refl h
  | evaluate => exact keeps_only h (keeps_withForm h fun form => (evaluate_of_ready fs h form).2)
  | eligibility => exact keeps_only h (keeps_withForm h fun form => (assess_of_ready fs h form).2)

/-- **A request keeps the service,** unless it asks for the registry to be read anew. -/
theorem handle_keeps (hr : r.reloads = false) : s.Keeps (s.handle fs r).1 := by
  unfold handle
  cases hpath : Address.pathOf r.address with
  | error e => exact .refl h
  | ok path =>
      dsimp only
      split
      · next hplain =>
        unfold serve
        cases hroute : route? path with
        | none => exact .refl h
        | some route =>
            refine keeps_respond fs h fun hreload => ?_
            have hasks : r.Asks "POST" route := ⟨hplain, hreload.1, path, hpath, hroute⟩
            rw [Request.reloads_iff.mpr ⟨route, hreload.2, hasks⟩] at hr
            cases hr
      · exact .refl h

/-- Whatever a request asks for, the service becomes one that is ready. -/
theorem becomes_handle (r : Request) : s.Becomes (s.handle fs r).1 := by
  cases hr : r.reloads with
  | true => exact s.handle_of_reloads fs hr ▸ s.becomes_reload fs
  | false => exact (handle_keeps fs h hr).toBecomes

end

/-- What a service is that has started. -/
theorem eq_of_start {fs : Files} {dir : Option Path} {env : Environment}
    (h : start fs dir env = .ok s) :
    ∃ settings u, Settings.ofEnvironment env = .ok settings ∧ (readRegistry fs dir).2.result = .ok u ∧
      s = { made settings dir with loaded := some (readRegistry fs dir).1 } := by
  unfold start at h
  split at h
  · cases h
  · next settings hsettings =>
    dsimp only [made, getRegistry] at h
    rw [Reported.result_andThen] at h
    cases hread : (readRegistry fs dir).2.result with
    | error e =>
        rw [hread] at h
        cases h
    | ok u =>
        rw [hread] at h
        exact ⟨settings, u, hsettings, rfl, (Except.ok.inj h).symm⟩

end Service

/-! ### Events of a session -/

namespace Session

/-- Whether an event is a request to read the registry anew. -/
def Event.reloads : Event → Bool
  | .call r => r.reloads
  | _ => false

variable {s : Session}

/-- **An event keeps the service,** unless it is a request to read the registry anew. -/
theorem keeps_step (h : s.service.Ready) {e : Event} (he : e.reloads = false) :
    s.service.Keeps (s.step e).1.service := by
  cases e with
  | call r => exact Service.handle_keeps s.files h he
  | write path node => exact .refl h
  | remove path => exact .refl h

theorem keeps_after (h : s.service.Ready) {events : List Event}
    (hall : ∀ e ∈ events, e.reloads = false) : s.service.Keeps (s.after events).service := by
  induction events generalizing s with
  | nil => exact .refl h
  | cons e r ih =>
      obtain ⟨he, hr⟩ := List.forall_mem_cons.mp hall
      have hstep := keeps_step h he
      exact hstep.trans (ih hstep.ready hr)

/-- Any event leaves a service that is ready, with what it was made with. -/
theorem becomes_step (h : s.service.Ready) (e : Event) :
    s.service.Becomes (s.step e).1.service := by
  cases e with
  | call r => exact Service.becomes_handle s.files h r
  | write path node => exact (Service.Keeps.refl h).toBecomes
  | remove path => exact (Service.Keeps.refl h).toBecomes

/-- **A service that has started is ready,** whatever happens in its session. -/
theorem becomes_after (h : s.service.Ready) (events : List Event) :
    s.service.Becomes (s.after events).service := by
  induction events generalizing s with
  | nil => exact (Service.Keeps.refl h).toBecomes
  | cons e r ih =>
      have hstep := becomes_step h e
      exact hstep.trans (ih hstep.ready)

/-- A session starts if its directory loads. -/
theorem start_of_load {fs : Files} {dir : Option Path} {env : Environment} {settings : Settings}
    {registry found : Registry} {notices : List Notice} (hsettings : Settings.ofEnvironment env = .ok settings)
    (hload : Registry.empty.loadDirectory fs dir = (registry, ⟨notices, .ok found⟩)) :
    start fs dir env = .ok ⟨{ Service.made settings dir with loaded := some registry }, fs⟩ := by
  rw [start, Service.start, hsettings]
  simp only [Service.made, Service.getRegistry, Service.readRegistry, hload]
  rfl

/-- Whether a session is as one that has just started: with the settings of the environment and the registry
of the directory, all of which could be read. -/
structure Started (fs : Files) (dir : Option Path) (env : Environment) (s : Session) : Prop where
  files : s.files = fs
  directory : s.service.directory = dir
  settings : Settings.ofEnvironment env = .ok s.service.settings
  registry : s.service.registry = (Service.readRegistry fs dir).1
  ready : s.service.Ready
  read : ∃ u, (Service.readRegistry fs dir).2.result = .ok u

theorem started_of_start {fs : Files} {dir : Option Path} {env : Environment}
    (h : start fs dir env = .ok s) : Started fs dir env s := by
  unfold start at h
  cases hservice : Service.start fs dir env with
  | error e =>
      rw [hservice] at h
      cases h
  | ok service =>
      rw [hservice] at h
      obtain rfl := Except.ok.inj h
      obtain ⟨settings, u, hsettings, hread, rfl⟩ := Service.eq_of_start hservice
      exact ⟨rfl, rfl, hsettings, rfl, ⟨rfl, nofun⟩, u, hread⟩

end Session
end Verdict
