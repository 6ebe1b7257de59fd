/-
# The evaluations of a document agree

The verdict of `evaluateRules`, the verdict of `verdictOfRules` onto any trace, and what the
document's operator makes of the results of `verdictOfGroup` for its groups are one truth value,
that of `Document.holds`; and the summaries of `evaluateRules` are those of `summariesOfRules`
(`evaluations_agree`).
-/

import Verdict.Proofs.Supplied

namespace Verdict

/-- **All evaluations of a document agree with its meaning.**  Whatever rules stand for the
document, whatever the facts, and for labels that are texts:

* the outcome's verdict, the verdict onto any trace, and the results of the single groups reduced
  by the document's operator are all `Document.holds`;
* the outcome's summaries are those computed without a trace, one for each top-level group, in
  order, with its id, its label and `Group.holds`;
* a document or group under `AND` holds exactly when all its parts hold, under `OR` exactly when
  one of them does. -/
theorem evaluations_agree {own added : Labels} {rules facts labels : Value} {d : Document}
    {table : FactTable} (hown : own.AreTexts) (hd : (Document.read rules).result = .ok d)
    (hf : FactTable.ofValue? facts = some table) (hl : Labels.ofValue? labels = some added)
    (ha : added.AreTexts) :
    (∃ o, (evaluateRules own rules facts labels).result = .ok o ∧ o.overall = d.holds table ∧
        (summariesOfRules rules facts).result = .ok o.summaries ∧
        o.summaries = d.groups.map fun g => ⟨g.id, g.label, g.holds table⟩) ∧
      (∀ sink, ((verdictOfRules rules facts labels).onto sink).2.result = .ok (d.holds table)) ∧
      (∀ path position index sink, Line.index? position = some index →
        (d.groups.mapM fun g =>
            ((verdictOfGroup g path position facts labels).onto sink).2.result).map
          d.operator.reduce = .ok (d.holds table)) ∧
      (d.holds table = true ↔
        match d.operator with
        | .all => ∀ g ∈ d.groups, g.holds table = true
        | .any => ∃ g ∈ d.groups, g.holds table = true) ∧
      ∀ g : Group, g.holds table = true ↔
        match g.operator with
        | .all => (∀ c ∈ g.conditions, c.holds table = true) ∧
            ∀ sub ∈ g.groups, sub.holds table = true
        | .any => (∃ c ∈ g.conditions, c.holds table = true) ∨
            ∃ sub ∈ g.groups, sub.holds table = true := by
  have hr : Document.read rules = ⟨(Document.read rules).notices, .ok d⟩ := by rw [← hd]
  have ho := congrArg Reported.result (evaluateRules_eq hown hr hf hl ha)
  refine ⟨⟨_, ho, rfl, ?_, rfl⟩, ?_, ?_, d.holds_iff table, ?_⟩
  · rw [summariesOfRules_eq hr hf]
  · intro sink
    rw [verdictOfRules_eq hr hf hl ha, Traced.onto]
  · intro path position index sink hi
    have hg : ∀ g, ((verdictOfGroup g path position facts labels).onto sink).2.result =
        .ok (g.holds table) := by
      intro g
      rw [verdictOfGroup_eq g path hi hf hl ha, Traced.onto]
    simp only [hg, d.holds_eq_reduce]
    exact congrArg (Except.map _) (List.mapM_pure ..)
  · intro g
    exact g.holds_iff table

/-- The hypotheses of `evaluations_agree` are satisfiable: under `OR` the sample rules hold, since
an empty group under `AND` does, although the income is too low. -/
theorem evaluations_agree_sample :
    ∃ o, (evaluateRules Keyed.empty Sample.rules Sample.facts Sample.labels).result = .ok o ∧
      o.overall = true ∧
      (summariesOfRules Sample.rules Sample.facts).result = .ok o.summaries ∧
      o.summaries = [⟨"outer", "outer", true⟩, ⟨"income", "Income", false⟩] := by
  have hd : (Document.read Sample.rules).result = .ok Sample.document := rfl
  have hf : FactTable.ofValue? Sample.facts = some Sample.table := rfl
  have hl : Labels.ofValue? Sample.labels = some Sample.catalog := rfl
  obtain ⟨⟨o, ho, hv, hs, hg⟩, -⟩ :=
    evaluations_agree Labels.areTexts_empty hd hf hl Sample.areTexts_catalog
  exact ⟨o, ho, hv.trans (by decide +kernel), hs, hg.trans (by decide +kernel)⟩

end Verdict
