/-
# What a visit leaves

Every condition of a tree occurs once, under the display names of the groups around it
(`Group.occurrences`).  A visit whose labels are texts comes to an end and leaves

| what | for each | in which order |
| --- | --- | --- |
| a line | occurrence of a condition | a group's conditions, then its subgroups |
| a notice | group | a group's subgroups, then the group |
| a result | visited group | that of `Group.holds` |

`Group.visit_eq` states all three at once, for any path above the group, and `Document.visit_eq`
for the top-level groups of a document.
-/

import Verdict.Evaluation.Outcome
import Verdict.Proofs.Meaning

namespace Verdict

/-- A condition of a tree, and the display names of the groups around it, outermost first. -/
structure Occurrence where
  names : List String
  condition : Condition

namespace Occurrence

/-- The same condition in a tree that stands inside one more group. -/
def within (name : String) (o : Occurrence) : Occurrence := ⟨name :: o.names, o.condition⟩

/-- The path to a condition of a tree below another path. -/
def path (parent : String) (o : Occurrence) : String := pathSeparator.intercalate (parent :: o.names)

/-- The line of a condition of a tree below a path: the path to the condition, its token with the
description of the token, its operator as written, the echoes of its literal and of the fact under
its token, and whether it holds. -/
def line (facts : FactTable) (labels : Labels) (index : Option Int) (parent : String)
    (o : Occurrence) : Line where
  path := o.path parent
  token := o.condition.token
  label := (labels.text? o.condition.token).getD o.condition.token
  op := o.condition.operator
  expected := o.condition.value.toValue.echo
  actual := (facts.lookup o.condition.token).echo
  passed := o.condition.holds facts
  groupIndex := index

/-- Inside one more group a condition has the line that it has below the path of that group. -/
theorem line_within (facts : FactTable) (labels : Labels) (index : Option Int)
    (parent name : String) (o : Occurrence) :
    (o.within name).line facts labels index parent =
      o.line facts labels index (pathBelow parent name) := rfl

end Occurrence

namespace Group

mutual

/-- The conditions of a group: its own, then those of its subgroups. -/
def occurrences : Group → List Occurrence
  | ⟨id, label, operator, conditions, groups⟩ =>
    let name := displayName ⟨id, label, operator, conditions, groups⟩
    conditions.map (fun c => ⟨[name], c⟩) ++ (allOccurrences groups).map (Occurrence.within name)

/-- The conditions of a list of groups. -/
def allOccurrences : List Group → List Occurrence
  | [] => []
  | g :: r => g.occurrences ++ allOccurrences r

end

mutual

/-- The notices of a group below a path: those of its subgroups, then its own. -/
def notices (facts : FactTable) (parent : String) : Group → List Notice
  | ⟨id, label, operator, conditions, groups⟩ =>
    let path := pathBelow parent (displayName ⟨id, label, operator, conditions, groups⟩)
    allNotices facts path groups ++
      [.groupEvaluated path operator (holds facts ⟨id, label, operator, conditions, groups⟩)]

/-- The notices of a list of groups below a path. -/
def allNotices (facts : FactTable) (parent : String) : List Group → List Notice
  | [] => []
  | g :: r => g.notices facts parent ++ allNotices facts parent r

end

end Group

/-- The lines of a group below a path, for the top-level group at a position. -/
def Group.lines (facts : FactTable) (labels : Labels) (index : Option Int) (parent : String)
    (g : Group) : Trace :=
  g.occurrences.map (Occurrence.line facts labels index parent)

/-- The lines of a document: those of its top-level groups, one group after the other. -/
def Document.lines (d : Document) (facts : FactTable) (labels : Labels) : Trace :=
  d.groups.zipIdx.flatMap fun p => p.1.lines facts labels (some p.2) rootPath

/-- The summaries of a document. -/
def Document.groupSummaries (d : Document) (facts : FactTable) : List Summary :=
  d.groups.map fun g => ⟨g.id, g.label, g.holds facts⟩

/-- Whether the tokens of conditions are described by texts. -/
def Labels.Describes (labels : Labels) (os : List Occurrence) : Prop :=
  ∀ o ∈ os, (labels.text? o.condition.token).isSome = true

section
variable {s : Scope} {index : Option Int}

/-- A condition whose token is described by a text leaves its line. -/
theorem Condition.visit_eq (hi : Line.index? s.index = some index) (parent name : String)
    {c : Condition} (h : (s.labels.text? c.token).isSome = true) :
    c.visit s (pathBelow parent name) =
      ⟨[Occurrence.line s.facts s.labels index parent ⟨[name], c⟩], [], .ok (c.holds s.facts)⟩ := by
  obtain ⟨text, ht⟩ := Option.isSome_iff_exists.mp h
  simp only [visit, line?, ht, hi, Occurrence.line, Option.getD_some]
  rfl

/-- Conditions in a row leave their lines in that order. -/
theorem Condition.visitAll_eq (hi : Line.index? s.index = some index) (parent name : String)
    {cs : List Condition} (h : ∀ c ∈ cs, (s.labels.text? c.token).isSome = true) :
    visitAll s (pathBelow parent name) cs =
      ⟨cs.map fun c => Occurrence.line s.facts s.labels index parent ⟨[name], c⟩, [],
        .ok (cs.map (Condition.holds s.facts))⟩ := by
  induction cs with
  | nil => rfl
  | cons c r ih =>
      rw [List.forall_mem_cons] at h
      rw [visitAll, visit_eq hi parent name h.1, ih h.2]
      simp only [Traced.ok_andThen, Traced.done, Reported.done, List.append_nil, List.map_cons,
        List.singleton_append]

mutual

/-- **What visiting a group leaves,** below any path: the lines of its conditions, the notices of
its subgroups and its own, and whether it holds. -/
theorem Group.visit_eq (hi : Line.index? s.index = some index) :
    ∀ (parent : String) (g : Group), s.labels.Describes g.occurrences →
      g.visit s parent =
        ⟨g.lines s.facts s.labels index parent, g.notices s.facts parent, .ok (g.holds s.facts)⟩
  | parent, ⟨id, label, operator, conditions, groups⟩, h => by
      rw [Labels.Describes, occurrences, List.forall_mem_append, List.forall_mem_map,
        List.forall_mem_map] at h
      rw [visit, Condition.visitAll_eq hi _ _ h.1, visitAll_eq hi _ groups h.2]
      simp only [Traced.ok_andThen, Traced.note, Reported.note, Traced.done, Reported.done,
        lines, occurrences, notices, holds, List.map_append, List.map_map, Function.comp_def,
        Occurrence.line_within, List.nil_append, List.append_nil]

/-- What visiting the groups of a list leaves. -/
theorem Group.visitAll_eq (hi : Line.index? s.index = some index) :
    ∀ (parent : String) (gs : List Group), s.labels.Describes (allOccurrences gs) →
      visitAll s parent gs =
        ⟨(allOccurrences gs).map (Occurrence.line s.facts s.labels index parent),
          allNotices s.facts parent gs, .ok (allHold s.facts gs)⟩
  | _, [], _ => rfl
  | parent, g :: r, h => by
      rw [Labels.Describes, allOccurrences, List.forall_mem_append] at h
      rw [visitAll, visit_eq hi parent g h.1, visitAll_eq hi parent r h.2]
      simp only [Traced.ok_andThen, Traced.done, Reported.done, lines, allOccurrences, allNotices,
        allHold, List.map_append, List.append_nil]

end

end

section
variable (facts : FactTable) {labels : Labels}

/-- What visiting top-level groups leaves, the first of which stands at a given position. -/
theorem Group.visitTop_eq (index : Nat) {gs : List Group}
    (h : labels.Describes (allOccurrences gs)) :
    visitTop facts labels index gs =
      ⟨(gs.zipIdx index).flatMap fun p => p.1.lines facts labels (some p.2) rootPath,
        allNotices facts rootPath gs, .ok (allHold facts gs)⟩ := by
  induction gs generalizing index with
  | nil => rfl
  | cons g r ih =>
      rw [Labels.Describes, allOccurrences, List.forall_mem_append] at h
      rw [visitTop, Group.visit_eq (s := ⟨facts, labels, .int index⟩) rfl rootPath g h.1,
        ih (index + 1) h.2]
      simp only [Traced.ok_andThen, Traced.done, Reported.done, List.zipIdx_cons,
        List.flatMap_cons, allNotices, allHold, List.append_nil]

namespace Document

variable (d : Document)

theorem visit_eq (h : labels.Describes (Group.allOccurrences d.groups)) :
    d.visit facts labels =
      ⟨d.lines facts labels, Group.allNotices facts rootPath d.groups,
        .ok (Group.allHold facts d.groups)⟩ :=
  Group.visitTop_eq facts 0 h

theorem summariesOf_allHold :
    summariesOf d.groups (Group.allHold facts d.groups) = d.groupSummaries facts := by
  rw [Group.allHold_eq_map, summariesOf, groupSummaries, List.zipWith_map_right,
    List.zipWith_self]

/-- What the lines of a document have of their conditions alone, they have in the order of the tree,
whatever the paths and the positions. -/
theorem map_lines {α : Type} {f : Line → α} {ofOccurrence : Occurrence → α}
    (h : ∀ index o, f (o.line facts labels index rootPath) = ofOccurrence o) :
    (d.lines facts labels).map f = (Group.allOccurrences d.groups).map ofOccurrence := by
  rw [lines, List.map_flatMap]
  -- The number of the first group is generalised, since the lines of the rest start after it.
  generalize 0 = start
  induction d.groups generalizing start with
  | nil => rfl
  | cons g r ih =>
      rw [List.zipIdx_cons, List.flatMap_cons, ih, Group.allOccurrences, List.map_append, Group.lines,
        List.map_map]
      simp only [Function.comp_def, h]

/-- **What evaluating a document gives:** its verdict, its lines and its summaries; and after the
notices of its groups, one on the verdict and one on each summary. -/
theorem evaluate_eq (h : labels.Describes (Group.allOccurrences d.groups)) :
    d.evaluate facts labels =
      ⟨Group.allNotices facts rootPath d.groups ++
          .evaluated (d.holds facts) d.groups.length (d.lines facts labels).length ::
            (d.groupSummaries facts).map Summary.notice,
        .ok ⟨d.holds facts, d.lines facts labels, d.groupSummaries facts⟩⟩ := by
  rw [evaluate, d.visit_eq facts h]
  simp only [Reported.andThen, Reported.note, Reported.done, reportSummaries,
    summariesOf_allHold, List.append_nil, List.singleton_append, holds]

/-- The verdict of a document, with its lines. -/
theorem verdict_eq (h : labels.Describes (Group.allOccurrences d.groups)) :
    d.verdict facts labels =
      ⟨d.lines facts labels, Group.allNotices facts rootPath d.groups, .ok (d.holds facts)⟩ := by
  rw [verdict, d.visit_eq facts h]
  simp only [Traced.ok_andThen, Traced.done, Reported.done, List.append_nil, holds]

/-- The summaries of a document, for which no labels are needed. -/
theorem summaries_eq :
    d.summaries facts =
      ⟨Group.allNotices facts rootPath d.groups ++ (d.groupSummaries facts).map Summary.notice,
        .ok (d.groupSummaries facts)⟩ := by
  rw [summaries, d.visit_eq facts fun _ _ => rfl]
  simp only [Reported.andThen, reportSummaries, summariesOf_allHold]

end Document

end

end Verdict
