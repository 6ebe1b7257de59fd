/-
# What the service answers about rules

A request that posts a form is answered from the form, the settings and the registry.

| the form | is about | the answer |
| --- | --- | --- |
| names a rule id that is not registered | nothing | 404 |
| names a registered rule id | the registered document, whatever rules it carries | the result |
| names no rule id, or the empty one | the document that its rules stand for | the result |

The result is the payload of what evaluating the document gives, or assessing by it.  The service does it
with the evaluator that all requests share, and the labels of a form are laid over its catalogue; yet nothing
that happened before in the session plays a part (`endpoints_without_memory`).
-/

import Verdict.Proofs.DirectoryLoad
import Verdict.Proofs.Gate
import Verdict.Proofs.ServiceState

namespace Verdict

/-! ### What a form is about -/

namespace EvaluationForm

/-- Whether a form names a rule that is not registered. -/
def Misses (form : EvaluationForm) (registry : Registry) : Prop :=
  ∃ id, form.named? = some id ∧ registry.get? id = none

/-- Whether a form is about a document: the registered one, or else the one that its rules stand for. -/
def IsAbout (form : EvaluationForm) (registry : Registry) (d : Document) : Prop :=
  match form.named? with
  | some id => registry.get? id = some d
  | none => (Document.read form.rules).result = .ok d

/-- Whether the rules of a form, if it needs them, can be read. -/
def RulesRead (form : EvaluationForm) : Prop :=
  form.named? = none → ∃ d, (Document.read form.rules).result = .ok d

variable {form : EvaluationForm} {registry : Registry}

theorem found_of_isAbout {d : Document} (h : form.IsAbout registry d) :
    (form.found registry).result = .ok (.ok d) := by
  unfold IsAbout at h
  unfold found
  cases hn : form.named? with
  | some id =>
      simp only [hn] at h
      simp only [Service.registered, h, Reported.done]
  | none =>
      simp only [hn] at h
      rw [Reported.result_andThen, h]
      rfl

theorem found_of_misses (h : form.Misses registry) :
    ∃ id, form.found registry = .done (.error (.noRule id)) := by
  obtain ⟨id, hn, hid⟩ := h
  refine ⟨id, ?_⟩
  rw [found, hn]
  simp only [Service.registered, hid]

/-- A form that names its rules has none to read. -/
theorem RulesRead.of_named? {id : String} (h : form.named? = some id) : form.RulesRead := by
  intro hnone
  cases h.symm.trans hnone

/-- A form whose rules can be read is about one document, or names a rule that is not registered. -/
theorem misses_or_isAbout (h : form.RulesRead) (registry : Registry) :
    form.Misses registry ∨ ∃ d, form.IsAbout registry d := by
  unfold Misses IsAbout
  cases hn : form.named? with
  | none => exact Or.inr (h hn)
  | some id =>
      cases hid : registry.get? id with
      | none => exact Or.inl ⟨id, rfl, hid⟩
      | some d => exact Or.inr ⟨d, hid⟩

theorem not_misses_of_isAbout {d : Document} (h : form.IsAbout registry d) :
    ¬ form.Misses registry := by
  rintro ⟨id, hn, hid⟩
  unfold IsAbout at h
  simp only [hn, hid] at h
  cases h

/-! ### What a form supplies -/

/-- The facts of a form are the members of an object. -/
theorem exists_object_of_facts? {v facts : Value} (h : facts? v = some facts) :
    ∃ fields, v = .object fields ∧ facts = .object fields := by
  unfold facts? at h
  split at h
  · exact ⟨_, rfl, (Option.some.inj h).symm⟩
  · cases h

/-- The labels of a form are a catalogue of texts. -/
theorem exists_texts_of_labels? {v labels : Value} (h : labels? v = some labels) :
    ∃ added, Labels.ofValue? labels = some added ∧ added.AreTexts := by
  unfold labels? at h
  split at h
  · obtain rfl := Option.some.inj h
    exact ⟨_, rfl, Labels.areTexts_empty⟩
  · obtain ⟨texts, -, rfl⟩ := Option.map_eq_some_iff.mp h
    exact ⟨_, rfl, Labels.areTexts_ofTexts texts⟩
  · cases h

/-- Whether the facts of a form are a table of values that have texts, and its labels a catalogue of texts. -/
structure Supplies (form : EvaluationForm) (table : FactTable) (added : Labels) : Prop where
  facts : FactTable.ofValue? form.facts = some table
  short : ∀ token, ¬ (table.lookup token).source.IsLongInteger
  labels : Labels.ofValue? form.labels = some added
  texts : added.AreTexts

/-- What a form supplies, whose members have texts. -/
theorem exists_supplied {fields : List (String × Value)} (h : ofFields? fields = some form)
    (ht : (Value.object fields).hasText = true) : ∃ table added, form.Supplies table added := by
  unfold ofFields? at h
  simp only [Option.bind_eq_bind, Option.bind_eq_some_iff, Option.pure_def, Option.some.injEq] at h
  obtain ⟨rules, -, ruleId, -, facts, hfacts, labels, hlabels, rfl⟩ := h
  obtain ⟨members, hmembers, rfl⟩ := exists_object_of_facts? hfacts
  obtain ⟨added, hadded, htexts⟩ := exists_texts_of_labels? hlabels
  have hshort : ∀ f ∈ members, f.2.hasText = true := by
    refine Value.membersHaveText_iff.mp ?_
    cases hlookup : Value.lookup? "facts" fields with
    | none =>
        rw [hlookup] at hmembers
        obtain rfl := Value.object.inj hmembers
        rfl
    | some v =>
        rw [hlookup] at hmembers
        obtain ⟨f, hf, hv⟩ := Value.mem_of_lookup hlookup
        have htext := Value.membersHaveText_iff.mp ht f hf
        rw [hv.trans hmembers] at htext
        exact htext
  refine ⟨_, added, rfl, fun token => ?_, hadded, htexts⟩
  obtain ⟨v, hv, htext⟩ := FactTable.exists_lookup_of (P := fun v => v.hasText = true) rfl
    (fun _ hobject => Value.object.inj hobject ▸ hshort) rfl token
  rw [hv]
  exact Value.not_isLongInteger_of_hasText htext

end EvaluationForm

/-- A form for an assessment is one for an evaluation, and more. -/
theorem AssessmentForm.ofFields?_evaluation {fields : List (String × Value)} {form : AssessmentForm}
    (h : ofFields? fields = some form) : EvaluationForm.ofFields? fields = some form.evaluation := by
  unfold ofFields? at h
  simp only [Option.bind_eq_bind, Option.bind_eq_some_iff, Option.pure_def, Option.some.injEq] at h
  obtain ⟨evaluation, hevaluation, -, -, -, -, rfl⟩ := h
  exact hevaluation

/-- What a body holds has a text. -/
theorem Request.hasText_of_bodyFields {r : Request} {fields : List (String × Value)}
    (h : r.bodyFields = .ok fields) : (Value.object fields).hasText = true := by
  unfold bodyFields bodyValue at h
  split at h
  · next v hvalue =>
    obtain rfl := Except.ok.inj h
    split at hvalue
    · cases hvalue
    · split at hvalue
      · cases hvalue
      · split at hvalue
        · cases hvalue
        · split at hvalue
          · next hread =>
            obtain rfl := Except.ok.inj hvalue
            exact Value.closedFor_hasText.of_read hread
          · cases hvalue
          · cases hvalue
  · cases h
  · cases h

/-! ### A posted form -/

/-- Whether a request posts a form to a route. -/
structure Request.Posts {α : Type} (r : Request) (route : Service.Route)
    (ofFields? : List (String × Value) → Option α) (form : α) : Prop extends r.Asks "POST" route where
  body : ∃ fields, r.bodyFields = .ok fields ∧ ofFields? fields = some form

section
variable {r : Request}

/-- What a form for an evaluation supplies. -/
theorem Request.Posts.supplies_evaluation {route : Service.Route} {form : EvaluationForm}
    (h : r.Posts route EvaluationForm.ofFields? form) : ∃ table added, form.Supplies table added := by
  obtain ⟨fields, hfields, hform⟩ := h.body
  exact EvaluationForm.exists_supplied hform (hasText_of_bodyFields hfields)

/-- What a form for an assessment supplies. -/
theorem Request.Posts.supplies_assessment {route : Service.Route} {form : AssessmentForm}
    (h : r.Posts route AssessmentForm.ofFields? form) :
    ∃ table added, form.evaluation.Supplies table added := by
  obtain ⟨fields, hfields, hform⟩ := h.body
  exact EvaluationForm.exists_supplied (AssessmentForm.ofFields?_evaluation hform)
    (hasText_of_bodyFields hfields)

/-- A request that posts a form is answered by what its route makes of the form. -/
theorem Service.withForm_of_posts {α : Type} (s : Service) {route : Route}
    {ofFields? : List (String × Value) → Option α} {form : α} (h : r.Posts route ofFields? form)
    (misfits : List (String × Value) → List Value) (act : α → Service × Reported Response) :
    s.withForm r ofFields? misfits act = act form := by
  obtain ⟨fields, hfields, hform⟩ := h.body
  rw [withForm, hfields]
  simp only [hform]

theorem Service.handle_evaluate (s : Service) (fs : Files) {form : EvaluationForm}
    (h : r.Posts .evaluate EvaluationForm.ofFields? form) : s.handle fs r = s.evaluate fs form := by
  rw [s.handle_of_asks fs h.toAsks (by decide)]
  exact s.withForm_of_posts h _ _

theorem Service.handle_assess (s : Service) (fs : Files) {form : AssessmentForm}
    (h : r.Posts .eligibility AssessmentForm.ofFields? form) : s.handle fs r = s.assess fs form := by
  rw [s.handle_of_asks fs h.toAsks (by decide)]
  exact s.withForm_of_posts h _ _

end

/-! ### Answers about documents -/

/-- Whether an answer to a form is right: 404 if the form names a rule that is not registered, and only
then, and otherwise the payload of the document that the form is about. -/
def EvaluationForm.AnsweredBy (form : EvaluationForm) (registry : Registry)
    (payload : Document → Reported Value) (answer : Except Failure Response) : Prop :=
  ∃ response, answer = .ok response ∧ (response.status = 404 ↔ form.Misses registry) ∧
    (¬ form.Misses registry →
      ∃ d v, form.IsAbout registry d ∧ (payload d).result = .ok v ∧ response = .ok v)

/-- The answer is right if there is a payload of every document. -/
theorem EvaluationForm.answeredBy_answered {form : EvaluationForm} (registry : Registry)
    (hread : form.RulesRead) {payload : Document → Reported Value}
    (hpayload : ∀ d, ∃ v, (payload d).result = .ok v) :
    form.AnsweredBy registry payload (form.answered registry payload).result := by
  unfold answered
  rcases misses_or_isAbout hread registry with hmiss | ⟨d, hd⟩
  · obtain ⟨id, hid⟩ := found_of_misses hmiss
    refine ⟨.noRule id, ?_, ⟨fun _ => hmiss, fun _ => rfl⟩, fun h => absurd hmiss h⟩
    rw [hid, Reported.done_andThen]
    rfl
  · obtain ⟨v, hv⟩ := hpayload d
    have hfound := not_misses_of_isAbout hd
    refine ⟨.ok v, ?_, ⟨fun h => ?_, fun h => absurd h hfound⟩, fun _ => ⟨d, v, hd, hv, rfl⟩⟩
    · rw [Reported.result_andThen, found_of_isAbout hd]
      change ((payload d).andThen _).result = _
      rw [Reported.result_andThen, hv]
      rfl
    · cases h

namespace Settings

variable (settings : Settings)

theorem areTexts_catalog : settings.catalog.AreTexts := Labels.areTexts_ofTexts settings.labels

/-- Every document has an outcome for a form. -/
theorem exists_evaluation {form : EvaluationForm} {table : FactTable} {added : Labels}
    (h : form.Supplies table added) (d : Document) :
    ∃ v, (settings.evaluation form d).result = .ok v := by
  rw [evaluation, Reported.result_andThen,
    d.result_evaluateSupplied settings.areTexts_catalog h.facts h.labels h.texts]
  exact ⟨_, rfl⟩

/-- And an assessment: none of its facts is too long to be reported. -/
theorem exists_assessment {form : AssessmentForm} {table : FactTable} {added : Labels}
    (h : form.evaluation.Supplies table added) (d : Document) :
    ∃ v, (settings.assessment form d).result = .ok v := by
  rw [assessment, Reported.result_andThen, Assessor.assess]
  generalize Assessor.policyOf _ form.policy = p
  have hown := settings.areTexts_catalog
  by_cases hstops : p.blocks = true ∧ form.failures ≠ []
  · rw [p.assess_of_stops _ (.done d) _ h.facts hstops.1 hstops.2]
    exact ⟨_, rfl⟩
  · rw [p.result_assess_of_not_stops _ (.done d) h.facts h.labels hstops, Reported.done_andThen,
      d.evaluate_eq table ((hown.merge h.texts).describes _)]
    have hshort : ∀ token ∈ p.parameters, ¬ (table.lookup token).source.IsLongInteger :=
      fun token _ => h.short token
    have hlines := Policy.parameterLines?_eq_some (hown.merge h.texts) hshort
    simp only [Except.bind, hlines]
    exact ⟨_, rfl⟩

end Settings

/-! ### Requests in a session -/

namespace Session

/-- Whether a session becomes one with the same files, whose service keeps what it has. -/
structure Keeps (s t : Session) : Prop where
  files : t.files = s.files
  service : s.service.Keeps t.service

variable {s : Session} {r : Request}

/-- **A form for an evaluation** is answered by what its document comes to for the settings and the
registry. -/
theorem step_evaluate (hs : s.service.Ready) {form : EvaluationForm}
    (h : r.Posts .evaluate EvaluationForm.ofFields? form) :
    ∃ t, s.Keeps t ∧ s.step (.call r) =
      (t, some (form.answered s.service.registry (s.service.settings.evaluation form))) := by
  obtain ⟨hanswer, hkeeps⟩ := Service.evaluate_of_ready s.files hs form
  refine ⟨⟨(s.service.evaluate s.files form).1, s.files⟩, ⟨rfl, hkeeps⟩, ?_⟩
  rw [step, s.service.handle_evaluate s.files h, ← hanswer]

/-- **A form for an assessment** is answered by the assessment for the settings and the registry. -/
theorem step_assess (hs : s.service.Ready) {form : AssessmentForm}
    (h : r.Posts .eligibility AssessmentForm.ofFields? form) :
    ∃ t, s.Keeps t ∧ s.step (.call r) =
      (t, some (form.evaluation.answered s.service.registry (s.service.settings.assessment form))) := by
  obtain ⟨hanswer, hkeeps⟩ := Service.assess_of_ready s.files hs form
  refine ⟨⟨(s.service.assess s.files form).1, s.files⟩, ⟨rfl, hkeeps⟩, ?_⟩
  rw [step, s.service.handle_assess s.files h, ← hanswer]

/-- The answer to a form for an evaluation is right. -/
theorem answers_evaluate (hs : s.service.Ready) {form : EvaluationForm}
    (h : r.Posts .evaluate EvaluationForm.ofFields? form) (hread : form.RulesRead) :
    ∃ t answer, s.step (.call r) = (t, some answer) ∧ s.Keeps t ∧
      form.AnsweredBy s.service.registry (s.service.settings.evaluation form) answer.result := by
  obtain ⟨t, hkeeps, hstep⟩ := step_evaluate hs h
  obtain ⟨table, added, hsupplies⟩ := h.supplies_evaluation
  exact ⟨t, _, hstep, hkeeps, EvaluationForm.answeredBy_answered s.service.registry hread
    (s.service.settings.exists_evaluation hsupplies)⟩

/-- So is the answer to a form for an assessment. -/
theorem answers_assess (hs : s.service.Ready) {form : AssessmentForm}
    (h : r.Posts .eligibility AssessmentForm.ofFields? form) (hread : form.evaluation.RulesRead) :
    ∃ t answer, s.step (.call r) = (t, some answer) ∧ s.Keeps t ∧
      form.evaluation.AnsweredBy s.service.registry (s.service.settings.assessment form)
        answer.result := by
  obtain ⟨t, hkeeps, hstep⟩ := step_assess hs h
  obtain ⟨table, added, hsupplies⟩ := h.supplies_assessment
  exact ⟨t, _, hstep, hkeeps, EvaluationForm.answeredBy_answered s.service.registry hread
    (s.service.settings.exists_assessment hsupplies)⟩

theorem Begins.ready {fs : Files} {dir : Option Path} {env : Environment} {events : List Event}
    (h : Begins fs dir env events s) : (s.after events).service.Ready :=
  (becomes_after (started_of_start h.starts).ready events).ready

end Session

section
variable {ε α β : Type} {r : Except ε α}

end

namespace Sample

/-- The settings of an environment without variables. -/
def plainSettings : Settings :=
  ⟨"Rule Tree Evaluator", false, "info", true, "ruletree/rules/data", true, [], []⟩

end Sample

end Verdict
