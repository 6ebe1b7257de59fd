/-
# The gate before the rules

An assessment has two ways to go, and the failures that the caller found decide between them.

| failures | policy | assessment |
| --- | --- | --- |
| some | blocking | `Policy.blocked`: the message and the failures, whatever the rules, facts and labels |
| none, or some | not blocking, if some | `Policy.report` of the outcome that evaluating the rules has |

The policy is that of the call as a whole, or else that of the assessor (`assessments_gated`).  On the
second way the facts of the policy's parameters have to have a text, and an integer of too many digits has
none: then there is no assessment although the rules have an outcome
(`Sample.assess_of_long_integer`).
-/

import Verdict.Assessment.Basic
import Verdict.Proofs.DecimalEcho
import Verdict.Proofs.Supplied

namespace Verdict

/-- Texts are read as themselves. -/
theorem Value.asTexts?_map_text (ss : List String) : asTexts? (ss.map .text) = some ss := by
  induction ss with
  | nil => rfl
  | cons s r ih => simp only [List.map_cons, asTexts?, asText?, Option.bind_some, ih, Option.map_some]

/-! ### Texts of parameters -/

/-- Whether a value is an integer with too many digits for a text. -/
def Value.IsLongInteger (v : Value) : Prop :=
  ∃ n, v = .int n ∧ maxIntegerDigits < digitCount n.natAbs

theorem Value.not_isLongInteger_of_hasText {v : Value} (h : v.hasText = true) : ¬ v.IsLongInteger := by
  rintro ⟨n, rfl, hlong⟩
  exact absurd (of_decide_eq_true h) (Nat.not_le_of_lt hlong)

/-- Whatever a decimal is echoed as has a text. -/
theorem Decimal.hasText_echo (d : Decimal) : d.echo.hasText = true := by
  rcases d.echo_kinds with ⟨⟨hlow, hint⟩, hecho⟩ | ⟨-, ⟨x, hecho, -⟩ | hecho⟩
  · have hlt : d.toInt.natAbs < 10 ^ Value.maxIntegerDigits :=
      (natAbs_toInt_lt hint hlow).trans (Nat.pow_lt_pow_right (by decide) (by decide))
    rw [hecho, Value.hasText]
    exact decide_eq_true ((digitCount_le_iff _ (by decide)).mpr hlt)
  · rw [hecho]
    rfl
  · rw [hecho]
    rfl

/-- **The echo of a value has a text,** unless the value is an integer of too many digits. -/
theorem Value.hasText_echo_iff {v : Value} : v.echo.hasText = true ↔ ¬ v.IsLongInteger := by
  by_cases hint : ∃ n, v = .int n
  · obtain ⟨n, rfl⟩ := hint
    simp [echo, hasText, IsLongInteger]
  · have hecho : v.echo.hasText = true := by
      cases v with
      | int n => exact absurd ⟨n, rfl⟩ hint
      | decimal d =>
          cases d with
          | finite d => exact d.hasText_echo
          | _ => rfl
      | _ => rfl
    refine ⟨fun _ hlong => ?_, fun _ => hecho⟩
    obtain ⟨n, hn, -⟩ := hlong
    exact hint ⟨n, hn⟩

/-- A catalogue of texts shows a token in a parameter as it does in a line. -/
theorem Labels.AreTexts.describe_eq {labels : Labels} (h : labels.AreTexts) (token : String) :
    labels.describe token = .text ((labels.text? token).getD token) := by
  obtain ⟨s, hs⟩ := h.exists_describe token
  rw [text?, hs]
  rfl

section
variable {α β : Type} {f : α → Option β} {xs : List α}

theorem mapM_eq_some_of_forall {g : α → β} (h : ∀ x ∈ xs, f x = some (g x)) :
    xs.mapM f = some (xs.map g) := by
  induction xs with
  | nil => rfl
  | cons x r ih =>
      obtain ⟨hx, hr⟩ := List.forall_mem_cons.mp h
      rw [List.mapM_cons, hx, ih hr]
      rfl

theorem mapM_eq_none_of_exists (h : ∃ x ∈ xs, f x = none) : xs.mapM f = none := by
  obtain ⟨x, hmem, hx⟩ := h
  induction xs with
  | nil => cases hmem
  | cons first r ih =>
      rw [List.mapM_cons]
      rcases List.mem_cons.mp hmem with rfl | hmem
      · rw [hx]
        rfl
      · rw [ih hmem]
        cases f first <;> rfl

end

namespace Policy

variable {p : Policy} {facts : FactTable} {labels : Labels}

/-- The parameters of a policy are described if none of their facts is too long. -/
theorem parameterLines?_eq_some (h : labels.AreTexts)
    (hshort : ∀ token ∈ p.parameters, ¬ (facts.lookup token).source.IsLongInteger) :
    p.parameterLines? facts labels = some
      (p.parameters.map fun token => (facts.lookup token).describe ((labels.text? token).getD token)) := by
  refine mapM_eq_some_of_forall fun token htoken => ?_
  have hecho : (facts.lookup token).echo.hasText = true :=
    Value.hasText_echo_iff.mpr (hshort token htoken)
  rw [parameter?, h.describe_eq, Fact.describe?, hecho]
  rfl

/-- One whose fact is too long has no description. -/
theorem parameterLines?_eq_none
    (hlong : ∃ token ∈ p.parameters, (facts.lookup token).source.IsLongInteger) :
    p.parameterLines? facts labels = none := by
  obtain ⟨token, htoken, hlong⟩ := hlong
  refine mapM_eq_none_of_exists ⟨token, htoken, ?_⟩
  have hecho : ¬ (facts.lookup token).echo.hasText = true := fun h =>
    Value.hasText_echo_iff.mp h hlong
  rw [parameter?, Fact.describe?, Bool.eq_false_iff.mpr hecho]
  rfl

end Policy

namespace Policy

variable (p : Policy) (own : Labels) (document : Reported Document) {facts : Value}
  {failures : List String} {table : FactTable} {added : Labels}

theorem stops_iff : p.stops (failures.map .text) = true ↔ p.blocks = true ∧ failures ≠ [] := by
  simp [stops]

/-- The texts of failures are read as they are. -/
theorem failureTexts_map_text (failures : List String) :
    failureTexts (failures.map .text) = .done failures := by
  rw [failureTexts, Value.asTexts?_map_text]
  rfl

/-- The assessment that reports the outcome of rules, and the lines of parameters. -/
def report (p : Policy) (failures : List String) (facts : FactTable) (o : Outcome)
    (parameters : List String) : Assessment :=
  ⟨o.overall, p.verdictMessage o.overall, failures, o.summaries, parameters, o.lines, facts.echoes⟩

/-- **A gate that is shut:** the rules are not looked at. -/
theorem assess_of_stops (labels : Value) (hf : FactTable.ofValue? facts = some table)
    (hb : p.blocks = true) (hne : failures ≠ []) :
    p.assess own document facts (failures.map .text) labels =
      ⟨[.blocked failures.length], .ok ⟨false, p.blockedMessage, failures, [], [], [], []⟩⟩ := by
  rw [assess, suppliedFacts_eq hf, Reported.done_andThen, if_pos (p.stops_iff.mpr ⟨hb, hne⟩), blocked,
    failureTexts_map_text, List.length_map]
  rfl

theorem result_concluded (p : Policy) (failures : List String) (facts : FactTable) (o : Outcome)
    (catalog : Labels) :
    (p.concluded facts (failures.map .text) o catalog).result =
      match p.parameterLines? facts catalog with
      | some parameters => .ok (p.report failures facts o parameters)
      | none => .error .tooManyDigits := by
  rw [concluded, Reported.result_andThen, failureTexts_map_text]
  cases p.parameterLines? facts catalog <;> rfl

/-- **A gate that is open:** what comes out is the report of what evaluating the document gives, if there
are lines for the parameters. -/
theorem result_assess_of_not_stops {labels : Value} (hf : FactTable.ofValue? facts = some table)
    (hl : Labels.ofValue? labels = some added) (h : ¬ (p.blocks = true ∧ failures ≠ [])) :
    (p.assess own document facts (failures.map .text) labels).result =
      (document.andThen fun d => d.evaluate table (own.merge added)).result.bind fun o =>
        match p.parameterLines? table (own.merge added) with
        | some parameters => .ok (p.report failures table o parameters)
        | none => .error .tooManyDigits := by
  have hopen : ¬ p.stops (failures.map .text) = true := fun hs => h (p.stops_iff.mp hs)
  rw [assess, suppliedFacts_eq hf, Reported.done_andThen, if_neg hopen, assessed,
    suppliedLabels_eq own hl]
  simp only [Reported.done_andThen, Reported.result_andThen, result_concluded]
  cases document.result <;> rfl

end Policy

/-! ### What an assessment and its lines have in common -/

/-- A line of a document is that of one of its conditions. -/
theorem Document.exists_of_mem_lines {d : Document} {facts : FactTable} {labels : Labels} {l : Line}
    (h : l ∈ d.lines facts labels) :
    ∃ (index : Option Int) (o : Occurrence), l = o.line facts labels index rootPath := by
  obtain ⟨p, -, hl⟩ := List.mem_flatMap.mp h
  obtain ⟨o, -, rfl⟩ := List.mem_map.mp hl
  exact ⟨_, o, rfl⟩

/-- **Assessments are gated, and otherwise report the outcome of the rules.**  Let rules, read or not, and
facts be supplied to an assessor, with texts for failures.  The policy is that of the call, all of it, or
else the assessor's.

* If there are failures and the policy blocks, the assessment has the policy's message and the failures
  and nothing else, even where the rules cannot be read.  Any other call with these failures, whose
  policy blocks with this message, gives the same, whatever its assessor, rules, facts and labels.
* Otherwise, with labels that are texts, and if no parameter of the policy has an integer of too many
  digits for its fact, the assessment succeeds or fails as evaluating the rules does, and has the verdict,
  the lines and the summaries of the outcome, the message for the verdict, the failures, the echoes of the
  facts, and one line for each parameter of the policy, in order.  A parameter has the fact and the label
  that every line of the trace with its token has.
* If a parameter has such a fact, there is no assessment: where the rules have an outcome, it fails for the
  digits. -/
theorem assessments_gated {a : Assessor} {call : Option Policy} {document : Reported Document}
    {facts labels : Value} {failures : List String} {table : FactTable}
    (hf : FactTable.ofValue? facts = some table) :
    let p := call.getD a.policy
    let assessed := a.assess call document facts (failures.map .text) labels
    let evaluated := document.andThen (Document.evaluateSupplied a.labels facts labels)
    (p.blocks = true ∧ failures ≠ [] →
      assessed.result = .ok ⟨false, p.blockedMessage, failures, [], [], [], []⟩ ∧
      ∀ (b : Assessor) (call' : Option Policy) (document' : Reported Document) (facts' labels' : Value)
        (table' : FactTable), FactTable.ofValue? facts' = some table' →
        (call'.getD b.policy).blocks = true →
        (call'.getD b.policy).blockedMessage = p.blockedMessage →
          b.assess call' document' facts' (failures.map .text) labels' = assessed) ∧
    (¬ (p.blocks = true ∧ failures ≠ []) →
      ∀ added, Labels.ofValue? labels = some added → a.labels.AreTexts → added.AreTexts →
        let label := fun token => (Labels.text? (a.labels.merge added) token).getD token
        ((∀ token ∈ p.parameters, ¬ (table.lookup token).source.IsLongInteger) →
          assessed.result = evaluated.result.map fun o =>
            { eligible := o.overall
              message := if o.overall then p.eligibleMessage else p.ineligibleMessage
              failures := failures
              summaries := o.summaries
              parameters := p.parameters.map fun token => (table.lookup token).describe (label token)
              lines := o.lines
              facts := table.toList.map fun f => (f.1, f.2.echo) }) ∧
        ((∃ token ∈ p.parameters, (table.lookup token).source.IsLongInteger) →
          assessed.result = evaluated.result.bind fun _ => .error .tooManyDigits) ∧
        ∀ o, evaluated.result = .ok o →
          ∀ l ∈ o.lines, l.label = label l.token ∧ l.actual = (table.lookup l.token).echo) := by
  intro p assessed evaluated
  have hp : assessed = p.assess a.labels document facts (failures.map .text) labels := rfl
  refine ⟨fun ⟨hb, hne⟩ => ?_, fun h added hl hown ha => ?_⟩
  · have hshut := p.assess_of_stops a.labels document labels hf hb hne
    refine ⟨by rw [hp, hshut], ?_⟩
    intro b call' document' facts' labels' table' hf' hb' hmessage
    rw [hp, hshut, ← hmessage]
    exact (call'.getD b.policy).assess_of_stops b.labels document' labels' hf' hb' hne
  · intro label
    have hevaluate : evaluated =
        document.andThen fun d => d.evaluate table (a.labels.merge added) :=
      congrArg document.andThen (funext (Document.evaluateSupplied_eq a.labels hf hl))
    have hopen := p.result_assess_of_not_stops a.labels document hf hl h
    rw [← hp, ← hevaluate] at hopen
    refine ⟨fun hshort => ?_, fun hlong => ?_, fun o ho l hmem => ?_⟩
    · rw [hopen, Policy.parameterLines?_eq_some (hown.merge ha) hshort]
      cases evaluated.result <;> rfl
    · rw [hopen, Policy.parameterLines?_eq_none hlong]
    · cases hd : document.result with
      | error e =>
          rw [Reported.result_andThen, hd] at ho
          cases ho
      | ok d =>
          rw [Reported.result_andThen, hd] at ho
          obtain rfl := Except.ok.inj (ho.symm.trans (d.result_evaluateSupplied hown hf hl ha))
          obtain ⟨index, occurrence, rfl⟩ := Document.exists_of_mem_lines hmem
          exact ⟨rfl, rfl⟩

namespace Sample

/-- An assessor without labels. -/
def assessor : Assessor := ⟨Keyed.empty, Policy.standard⟩

/-- A policy that reports two tokens. -/
def reporting : Policy := { Policy.standard with parameters := ["INCOME", "age"] }

/-- The hypotheses of `assessments_gated` are satisfiable on both sides of the gate: a failure stops
rules that have no document, and without failures a call has the policy that it brings. -/
theorem assessments_gated_reporting :
    (assessor.assess none (Document.read (.text "1E+1000000000000000000")) facts [.text "No address."]
        labels).result = .ok ⟨false, "Validation failed.", ["No address."], [], [], [], []⟩ ∧
      ∃ x, (assessor.assess (some reporting) (Document.read rules) facts [] labels).result = .ok x ∧
        x.eligible = true ∧ x.message = "Eligible" ∧
        x.parameters = ["Monthly income = 1,250.50", "age = "] := by
  have hf : FactTable.ofValue? facts = some table := rfl
  have hl : Labels.ofValue? labels = some catalog := rfl
  have hread : Document.read rules = ⟨[], .ok document⟩ := rfl
  have ho := congrArg Reported.result
    (evaluateRules_eq Labels.areTexts_empty hread hf hl areTexts_catalog)
  obtain ⟨hshut, -⟩ := @assessments_gated assessor none
    (Document.read (.text "1E+1000000000000000000")) _ labels ["No address."] table hf
  obtain ⟨-, hopen⟩ :=
    @assessments_gated assessor (some reporting) (Document.read rules) _ labels [] table hf
  obtain ⟨hreport, -⟩ := hopen (fun h => h.2 rfl) catalog hl Labels.areTexts_empty areTexts_catalog
  have hshown : ∀ token ∈ reporting.parameters, (table.lookup token).echo.hasText = true := by
    decide +kernel
  replace hreport := hreport fun token htoken => Value.hasText_echo_iff.mp (hshown token htoken)
  rw [← evaluateRules_eq_andThen, show assessor.labels = Keyed.empty from rfl, ho] at hreport
  have hholds : document.holds table = true := by decide +kernel
  refine ⟨(hshut ⟨rfl, List.cons_ne_nil _ _⟩).1, _, hreport, hholds, ?_, ?_⟩
  · dsimp only
    rw [if_pos hholds]
    rfl
  · decide +kernel

/-- The least natural number that has too many digits for a text. -/
def longNumber : Nat := 10 ^ Value.maxIntegerDigits

theorem isLongInteger_longNumber : (Value.int longNumber).IsLongInteger := by
  refine ⟨longNumber, rfl, Nat.lt_of_not_le fun h => ?_⟩
  have hlt : longNumber < 10 ^ Value.maxIntegerDigits := (digitCount_le_iff _ (by decide)).mp h
  exact Nat.lt_irrefl _ hlt

/-- Facts with such a number. -/
def longFacts : Value := .object [("Income", .int longNumber)]

/-- **Not every outcome is reported:** the rules have one for such facts, and there is no assessment that
lists the number. -/
theorem assess_of_long_integer :
    (∃ o, (evaluateRules assessor.labels rules longFacts labels).result = .ok o) ∧
      (assessor.assess (some reporting) (Document.read rules) longFacts [] labels).result =
        .error .tooManyDigits := by
  have hf : FactTable.ofValue? longFacts = some (FactTable.ofFields [("Income", .int longNumber)]) := rfl
  have hl : Labels.ofValue? labels = some catalog := rfl
  have hread : Document.read rules = .done document := rfl
  have hown : assessor.labels.AreTexts := Labels.areTexts_empty
  have hopen : ¬ (reporting.blocks = true ∧ ([] : List String) ≠ []) := fun h => h.2 rfl
  have hlong : ∃ token ∈ reporting.parameters,
      ((FactTable.ofFields [("Income", .int longNumber)]).lookup token).source.IsLongInteger :=
    ⟨"INCOME", List.mem_cons_self, isLongInteger_longNumber⟩
  have hassess := reporting.result_assess_of_not_stops assessor.labels (.done document) hf hl hopen
  rw [Policy.parameterLines?_eq_none hlong, Reported.done_andThen,
    document.evaluate_eq _ ((hown.merge areTexts_catalog).describes _)] at hassess
  exact ⟨⟨_, congrArg Reported.result (evaluateRules_eq hown hread hf hl areTexts_catalog)⟩, hassess⟩

end Sample

end Verdict
