/-
# Evaluating supplied rules

Rules, facts and labels are supplied as values.  Once the rules stand for a document, the facts
for a table and the labels for a catalogue of texts, each of the four ways to evaluate them comes
to an end, and what it leaves is known from the document, the table and the catalogue alone:

| evaluation | leaves |
| --- | --- |
| `evaluateRules` | the verdict, the lines and the summaries of a document |
| `verdictOfRules` | the verdict and the lines of a document |
| `verdictOfGroup` | whether a group holds, and its lines |
| `summariesOfRules` | the summaries of a document |
-/

import Verdict.Proofs.Descriptions
import Verdict.Proofs.Visit

namespace Verdict

theorem Labels.AreTexts.describes {labels : Labels} (h : labels.AreTexts) (os : List Occurrence) :
    labels.Describes os := fun o _ => h.isSome_text? o.condition.token

theorem suppliedFacts_eq {facts : Value} {table : FactTable}
    (h : FactTable.ofValue? facts = some table) : suppliedFacts facts = .done table := by
  rw [suppliedFacts, h]
  rfl

theorem ofValue?_of_suppliedFacts {facts : Value} {table : FactTable}
    (h : (suppliedFacts facts).result = .ok table) : FactTable.ofValue? facts = some table := by
  unfold suppliedFacts at h
  cases ht : FactTable.ofValue? facts with
  | none =>
      rw [ht] at h
      cases h
  | some t =>
      rw [ht] at h
      exact congrArg some (Except.ok.inj h)

theorem suppliedLabels_eq (own : Labels) {labels : Value} {added : Labels}
    (h : Labels.ofValue? labels = some added) :
    suppliedLabels own labels = .done (own.merge added) := by
  rw [suppliedLabels, Labels.overlay?, h]
  rfl

theorem exists_of_suppliedLabels {own catalog : Labels} {labels : Value}
    (h : (suppliedLabels own labels).result = .ok catalog) :
    ∃ added, Labels.ofValue? labels = some added ∧ catalog = own.merge added := by
  unfold suppliedLabels Labels.overlay? at h
  cases hl : Labels.ofValue? labels with
  | none =>
      rw [hl] at h
      cases h
  | some added =>
      rw [hl] at h
      exact ⟨added, rfl, (Except.ok.inj h).symm⟩

/-- Evaluates a document for supplied facts and labels. -/
def Document.evaluateSupplied (own : Labels) (facts labels : Value) (d : Document) : Reported Outcome :=
  (suppliedLabels own labels).andThen fun catalog =>
  (suppliedFacts facts).andThen fun table => d.evaluate table catalog

/-- Evaluating supplied rules is evaluating the document that they stand for. -/
theorem evaluateRules_eq_andThen (own : Labels) (rules facts labels : Value) :
    evaluateRules own rules facts labels =
      (Document.read rules).andThen (Document.evaluateSupplied own facts labels) := rfl

section
variable {rules facts labels : Value} {ns : List Notice} {d : Document} {table : FactTable}
  {added : Labels}

theorem Document.evaluateSupplied_eq (own : Labels) (hf : FactTable.ofValue? facts = some table)
    (hl : Labels.ofValue? labels = some added) (d : Document) :
    d.evaluateSupplied own facts labels = d.evaluate table (own.merge added) := by
  rw [evaluateSupplied, suppliedLabels_eq own hl, suppliedFacts_eq hf]
  simp only [Reported.done_andThen]

/-- What evaluating a document for supplied facts and labels gives. -/
theorem Document.result_evaluateSupplied {own : Labels} (hown : own.AreTexts)
    (hf : FactTable.ofValue? facts = some table) (hl : Labels.ofValue? labels = some added)
    (ha : added.AreTexts) (d : Document) :
    (d.evaluateSupplied own facts labels).result =
      .ok ⟨d.holds table, d.lines table (own.merge added), d.groupSummaries table⟩ := by
  rw [evaluateSupplied_eq own hf hl, d.evaluate_eq table ((hown.merge ha).describes _)]

/-- What evaluating supplied rules gives. -/
theorem evaluateRules_eq {own : Labels} (hown : own.AreTexts)
    (hd : Document.read rules = ⟨ns, .ok d⟩) (hf : FactTable.ofValue? facts = some table)
    (hl : Labels.ofValue? labels = some added) (ha : added.AreTexts) :
    evaluateRules own rules facts labels =
      ⟨ns ++ (d.evaluate table (own.merge added)).notices,
        .ok ⟨d.holds table, d.lines table (own.merge added), d.groupSummaries table⟩⟩ := by
  have he := d.evaluate_eq table ((hown.merge ha).describes _)
  rw [evaluateRules, hd, suppliedFacts_eq hf, suppliedLabels_eq own hl]
  simp only [Reported.andThen, Reported.done, List.nil_append, he]

/-- The verdict of supplied rules, with the lines of its document. -/
theorem verdictOfRules_eq (hd : Document.read rules = ⟨ns, .ok d⟩)
    (hf : FactTable.ofValue? facts = some table) (hl : Labels.ofValue? labels = some added)
    (ha : added.AreTexts) :
    verdictOfRules rules facts labels =
      ⟨d.lines table (Keyed.empty.merge added),
        ns ++ Group.allNotices table rootPath d.groups, .ok (d.holds table)⟩ := by
  have hv := d.verdict_eq table ((Labels.areTexts_empty.merge ha).describes _)
  rw [verdictOfRules, hd, suppliedFacts_eq hf, suppliedLabels_eq _ hl, Traced.ofReported,
    Traced.ok_andThen]
  simp only [Traced.ofReported_done_andThen, hv, List.nil_append]

/-- Whether a group below a path holds, with its lines. -/
theorem verdictOfGroup_eq (g : Group) (path : String) {position : Value} {index : Option Int}
    (hi : Line.index? position = some index) (hf : FactTable.ofValue? facts = some table)
    (hl : Labels.ofValue? labels = some added) (ha : added.AreTexts) :
    verdictOfGroup g path position facts labels =
      ⟨g.lines table (Keyed.empty.merge added) index path, g.notices table path,
        .ok (g.holds table)⟩ := by
  rw [verdictOfGroup, suppliedFacts_eq hf, suppliedLabels_eq _ hl, Traced.ofReported_done_andThen,
    Traced.ofReported_done_andThen]
  exact Group.visit_eq (s := ⟨table, _, position⟩) hi path g
    ((Labels.areTexts_empty.merge ha).describes _)

/-- The summaries of supplied rules. -/
theorem summariesOfRules_eq (hd : Document.read rules = ⟨ns, .ok d⟩)
    (hf : FactTable.ofValue? facts = some table) :
    summariesOfRules rules facts =
      ⟨ns ++ (d.summaries table).notices, .ok (d.groupSummaries table)⟩ := by
  rw [summariesOfRules, hd, suppliedFacts_eq hf]
  simp only [Reported.andThen, Reported.done, List.nil_append, d.summaries_eq]

end

/-! ### A sample -/

namespace Sample

/-- Rules under `OR`: a group with one condition above an empty subgroup, and a group with two
conditions. -/
def rules : Value :=
  .object [("operator", .text " or "), ("groups", .list [
    .object [("id", .text "outer"), ("operator", .text "Or"), ("conditions", .list [
        .object [("token", .text "age"), ("operator", .text "<"), ("value", .int 18)]]),
      ("groups", .list [.object [("id", .text "inner"), ("label", .null)]])],
    .object [("id", .text "income"), ("label", .text "Income"), ("conditions", .list [
      .object [("token", .text "INCOME"), ("operator", .text ">="), ("value", .int 2500)],
      .object [("token", .text "Resident"), ("operator", .text "="), ("value", .bool true)]])]])]

/-- The document that the rules stand for. -/
def document : Document :=
  ⟨.any,
    [⟨"outer", "outer", .any, [⟨"", "age", "<", .integer 18⟩],
        [⟨"inner", "inner", .all, [], []⟩]⟩,
      ⟨"income", "Income", .all, [⟨"", "INCOME", ">=", .integer 2500⟩,
        ⟨"", "Resident", "=", .boolean true⟩], []⟩]⟩

/-- Facts without an age, and with an income that is too low. -/
def facts : Value := .object [("Income", .text "1,250.50"), ("resident", .text "yes")]

/-- The table of the facts. -/
def table : FactTable :=
  FactTable.ofFields [("Income", .text "1,250.50"), ("resident", .text "yes")]

/-- A label for one of the tokens. -/
def labels : Value := .object [("income", .text "Monthly income")]

/-- The catalogue of the labels. -/
def catalog : Labels := Keyed.ofList [("income", .text "Monthly income")]

theorem areTexts_catalog : catalog.AreTexts :=
  Labels.areTexts_ofList fun _ hv => ⟨_, List.mem_singleton.mp hv⟩

end Sample

end Verdict
