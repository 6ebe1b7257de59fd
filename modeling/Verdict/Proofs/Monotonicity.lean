/-
# Verdicts grow with their conditions

Nothing in a rule tree negates: what is made of the results of conditions can only gain by more of
them.  So if every condition of a document that holds for some facts holds for other facts as well,
then so does every group of the document, at any depth (`Group.parts`), and so does the document
(`verdicts_mono`).  In particular the passes of the single lines settle everything else.

Truth values are ordered with false below true, so that `a ≤ b` says that `b` is true where `a` is.
-/

import Mathlib.Data.List.Forall2
import Verdict.Proofs.Supplied

namespace Verdict

theorem Combinator.reduce_cons (op : Combinator) (b : Bool) (bs : List Bool) :
    op.reduce (b :: bs) =
      match op with
      | .all => b && op.reduce bs
      | .any => b || op.reduce bs := by
  cases op <;> rfl

/-- **Combining results is monotone,** whatever the combinator. -/
theorem Combinator.reduce_mono (op : Combinator) {bs bs' : List Bool}
    (h : List.Forall₂ (· ≤ ·) bs bs') : op.reduce bs ≤ op.reduce bs' := by
  induction h with
  | nil => exact Bool.le_refl _
  | @cons b b' r r' hb _ ih =>
      rw [reduce_cons, reduce_cons]
      cases op with
      | all =>
          intro hall
          obtain ⟨hfirst, hrest⟩ := Bool.and_eq_true_iff.mp hall
          exact Bool.and_eq_true_iff.mpr ⟨hb hfirst, ih hrest⟩
      | any =>
          intro hany
          exact Bool.or_eq_true_iff.mpr ((Bool.or_eq_true_iff.mp hany).imp hb ih)

/-! ### The parts of a tree -/

namespace Group

/-- The conditions of a group and of all groups in it. -/
def allConditions (g : Group) : List Condition := g.occurrences.map (·.condition)

theorem allConditions_mk (id label : String) (operator : Combinator) (conditions : List Condition)
    (groups : List Group) :
    allConditions ⟨id, label, operator, conditions, groups⟩ =
      conditions ++ (allOccurrences groups).map (·.condition) := by
  rw [allConditions, occurrences, List.map_append, List.map_map, List.map_map]
  exact congrArg (· ++ _) (List.map_id conditions)

mutual

/-- A group with all groups in it, at any depth. -/
def parts : Group → List Group
  | ⟨id, label, operator, conditions, groups⟩ =>
    ⟨id, label, operator, conditions, groups⟩ :: allParts groups

/-- The groups of a list with all groups in them. -/
def allParts : List Group → List Group
  | [] => []
  | g :: r => g.parts ++ allParts r

end

mutual

/-- Every condition of a part is one of the whole. -/
theorem allConditions_subset_of_mem_parts : ∀ (g part : Group), part ∈ g.parts →
    part.allConditions ⊆ g.allConditions
  | ⟨id, label, operator, conditions, groups⟩, part, h => by
      rw [parts, List.mem_cons] at h
      rcases h with rfl | h
      · exact List.Subset.refl _
      · rw [allConditions_mk]
        exact List.subset_append_of_subset_right _ (allConditions_subset_of_mem_allParts groups part h)

theorem allConditions_subset_of_mem_allParts : ∀ (gs : List Group) (part : Group),
    part ∈ allParts gs → part.allConditions ⊆ (allOccurrences gs).map (·.condition)
  | [], _, h => absurd h List.not_mem_nil
  | g :: r, part, h => by
      rw [allParts, List.mem_append] at h
      rw [allOccurrences, List.map_append]
      rcases h with h | h
      · exact List.subset_append_of_subset_left _ (allConditions_subset_of_mem_parts g part h)
      · exact List.subset_append_of_subset_right _ (allConditions_subset_of_mem_allParts r part h)

end

end Group

namespace Document

/-- The conditions of a document, in the order of its lines. -/
def conditions (d : Document) : List Condition := (Group.allOccurrences d.groups).map (·.condition)

/-- The groups of a document, at any depth. -/
def parts (d : Document) : List Group := Group.allParts d.groups

end Document

/-! ### Two tables of facts -/

section
variable {facts facts' : FactTable}

mutual

/-- **A group that holds for some facts holds for others** for which its conditions do. -/
theorem Group.holds_mono : ∀ g : Group,
    (∀ c ∈ g.allConditions, c.holds facts ≤ c.holds facts') → g.holds facts ≤ g.holds facts'
  | ⟨id, label, operator, conditions, groups⟩, h => by
      rw [allConditions_mk, List.forall_mem_append] at h
      have hown : List.Forall₂ (· ≤ ·) (conditions.map (Condition.holds facts))
          (conditions.map (Condition.holds facts')) := by
        rw [List.forall₂_map_left_iff, List.forall₂_map_right_iff, List.forall₂_same]
        exact h.1
      rw [holds, holds]
      exact operator.reduce_mono (List.rel_append hown (allHold_mono groups h.2))

theorem Group.allHold_mono : ∀ gs : List Group,
    (∀ c ∈ (allOccurrences gs).map (·.condition), c.holds facts ≤ c.holds facts') →
      List.Forall₂ (· ≤ ·) (allHold facts gs) (allHold facts' gs)
  | [], _ => .nil
  | g :: r, h => by
      rw [allOccurrences, List.map_append, List.forall_mem_append] at h
      exact .cons (holds_mono g h.1) (allHold_mono r h.2)

end

namespace Document

variable {d : Document} (h : ∀ c ∈ d.conditions, c.holds facts ≤ c.holds facts')
include h

theorem holds_mono : d.holds facts ≤ d.holds facts' :=
  d.operator.reduce_mono (Group.allHold_mono d.groups h)

/-- At any depth. -/
theorem holds_mono_of_mem_parts {g : Group} (hg : g ∈ d.parts) : g.holds facts ≤ g.holds facts' :=
  g.holds_mono fun c hc => h c (Group.allConditions_subset_of_mem_allParts d.groups g hg hc)

end Document
end

theorem Group.mem_allParts_of_mem {g : Group} {gs : List Group} (h : g ∈ gs) : g ∈ allParts gs := by
  induction gs with
  | nil => exact absurd h List.not_mem_nil
  | cons first r ih =>
      rw [allParts, List.mem_append]
      rcases List.mem_cons.mp h with rfl | h
      · obtain ⟨id, label, operator, conditions, groups⟩ := g
        exact Or.inl (List.mem_cons_self ..)
      · exact Or.inr (ih h)

/-- The same summary, but that a group which did not pass may pass. -/
def Summary.Grows (s s' : Summary) : Prop :=
  s'.id = s.id ∧ s'.label = s.label ∧ (s.passed = true → s'.passed = true)

theorem Document.groupSummaries_mono {facts facts' : FactTable} {d : Document}
    (h : ∀ c ∈ d.conditions, c.holds facts ≤ c.holds facts') :
    List.Forall₂ Summary.Grows (d.groupSummaries facts) (d.groupSummaries facts') := by
  rw [groupSummaries, groupSummaries, List.forall₂_map_left_iff, List.forall₂_map_right_iff,
    List.forall₂_same]
  intro g hg
  exact ⟨rfl, rfl, holds_mono_of_mem_parts h (Group.mem_allParts_of_mem hg)⟩

/-- The passes of the lines of a document are the results of its conditions. -/
theorem Document.map_passed_lines (d : Document) (facts : FactTable) (labels : Labels) :
    (d.lines facts labels).map (·.passed) = d.conditions.map (Condition.holds facts) := by
  rw [conditions, List.map_map]
  exact d.map_lines facts fun _ _ => by rw [Occurrence.line, Function.comp_apply]

/-- Results that are the same line by line are the same for every condition. -/
theorem Document.holds_eq_of_map_eq {facts facts' : FactTable} {d : Document}
    (h : d.conditions.map (Condition.holds facts) = d.conditions.map (Condition.holds facts')) :
    ∀ c ∈ d.conditions, c.holds facts = c.holds facts' :=
  List.map_inj_left.mp h

/-- **Verdicts grow with their conditions.**  Let a document be evaluated for two supplies of facts, with
labels that are texts.  Then

* if every condition of the document that holds for the first facts holds for the second, then so do
  the verdict, every summary, and every group at any depth when it is evaluated by itself, below any
  path;
* if the lines of the two evaluations pass alike, one by one, then the verdicts are the same, the
  summaries are, and so is whether a group holds, at any depth. -/
theorem verdicts_mono (d : Document) {own added : Labels} {facts facts' labels : Value}
    {table table' : FactTable} (hf : FactTable.ofValue? facts = some table)
    (hf' : FactTable.ofValue? facts' = some table') (hl : Labels.ofValue? labels = some added)
    (hown : own.AreTexts) (ha : added.AreTexts) :
    ∃ o o', (d.evaluateSupplied own facts labels).result = .ok o ∧
      (d.evaluateSupplied own facts' labels).result = .ok o' ∧
      (d.verdict table (own.merge added)).report.result = .ok o.overall ∧
      (d.verdict table' (own.merge added)).report.result = .ok o'.overall ∧
      ((∀ c ∈ d.conditions, c.holds table = true → c.holds table' = true) →
        (o.overall = true → o'.overall = true) ∧
        List.Forall₂ Summary.Grows o.summaries o'.summaries ∧
        ∀ g ∈ d.parts, ∀ path position index, Line.index? position = some index →
          (verdictOfGroup g path position facts labels).report.result = .ok true →
            (verdictOfGroup g path position facts' labels).report.result = .ok true) ∧
      (o.lines.map (·.passed) = o'.lines.map (·.passed) →
        o.overall = o'.overall ∧ o.summaries = o'.summaries ∧
        ∀ g ∈ d.parts, g.holds table = g.holds table') := by
  have ho := d.result_evaluateSupplied hown hf hl ha
  have ho' := d.result_evaluateSupplied hown hf' hl ha
  have hdescribes := (hown.merge ha).describes (Group.allOccurrences d.groups)
  have hv := congrArg (·.report.result) (d.verdict_eq table hdescribes)
  have hv' := congrArg (·.report.result) (d.verdict_eq table' hdescribes)
  refine ⟨_, _, ho, ho', hv, hv', ?_, ?_⟩
  · intro h
    refine ⟨Document.holds_mono h, Document.groupSummaries_mono h, ?_⟩
    intro g hg path position index hi hpass
    rw [verdictOfGroup_eq g path hi hf hl ha] at hpass
    rw [verdictOfGroup_eq g path hi hf' hl ha]
    exact congrArg Except.ok (Document.holds_mono_of_mem_parts h hg (Except.ok.inj hpass))
  · intro h
    rw [d.map_passed_lines, d.map_passed_lines] at h
    have heq := Document.holds_eq_of_map_eq h
    -- Results that are the same grow in both directions.
    have hle : ∀ c ∈ d.conditions, c.holds table ≤ c.holds table' :=
      fun c hc hpass => heq c hc ▸ hpass
    have hge : ∀ c ∈ d.conditions, c.holds table' ≤ c.holds table :=
      fun c hc hpass => (heq c hc).symm ▸ hpass
    have hparts : ∀ g ∈ d.parts, g.holds table = g.holds table' := fun g hg =>
      Bool.le_antisymm (Document.holds_mono_of_mem_parts hle hg)
        (Document.holds_mono_of_mem_parts hge hg)
    refine ⟨Bool.le_antisymm (Document.holds_mono hle) (Document.holds_mono hge), ?_, hparts⟩
    refine List.map_congr_left fun g hg => ?_
    rw [hparts g (Group.mem_allParts_of_mem hg)]

namespace Sample

/-- Facts with an income that is high enough. -/
def richer : Value := .object [("resident", .bool true), ("INCOME", .int 3000)]

/-- The table of these facts. -/
def richerTable : FactTable := FactTable.ofFields [("resident", .bool true), ("INCOME", .int 3000)]

/-- The hypotheses of `verdicts_mono` are satisfiable: every condition of the sample that holds for its
facts holds for those with the higher income, and so the verdict stays true. -/
theorem verdicts_mono_richer :
    ∃ o o', (document.evaluateSupplied Keyed.empty facts labels).result = .ok o ∧
      (document.evaluateSupplied Keyed.empty richer labels).result = .ok o' ∧
      o.overall = true ∧ o'.overall = true ∧ List.Forall₂ Summary.Grows o.summaries o'.summaries := by
  have hf : FactTable.ofValue? facts = some table := rfl
  have hf' : FactTable.ofValue? richer = some richerTable := rfl
  have hl : Labels.ofValue? labels = some catalog := rfl
  obtain ⟨o, o', ho, ho', hv, -, hmono, -⟩ :=
    verdicts_mono document hf hf' hl Labels.areTexts_empty areTexts_catalog
  obtain ⟨hoverall, hsummaries, -⟩ := hmono (by decide +kernel)
  have htrue : (document.verdict table (Keyed.merge Keyed.empty catalog)).report.result = .ok true := by
    decide +kernel
  have ho_true : o.overall = true := Except.ok.inj (hv.symm.trans htrue)
  exact ⟨o, o', ho, ho', ho_true, hoverall ho_true, hsummaries⟩

end Sample

end Verdict
