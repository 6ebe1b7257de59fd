/-
# Trees of one shape

Two documents match when one is the other with the labels of its groups rewritten and its conditions
replaced by related ones (`Document.Matches`).  What related conditions have in common, matching trees
have in common:

| related conditions | matching trees |
| --- | --- |
| hold alike | hold alike (`Group.holds_of_matches`), and so do their groups' summaries |
| leave lines that look alike, and no label is rewritten | leave the same results and notices, and lines that look alike (`Group.mapLines_visit`) |
-/

import Mathlib.Data.List.Forall2
import Verdict.Proofs.Visit

namespace Verdict

namespace Group

mutual

/-- Whether a group is another with its labels rewritten and its conditions replaced by related
ones. -/
def Matches (rewrite : String → String → String) (related : Condition → Condition → Prop) :
    Group → Group → Prop
  | ⟨id, label, operator, conditions, groups⟩, ⟨id', label', operator', conditions', groups'⟩ =>
    id' = id ∧ label' = rewrite id label ∧ operator' = operator ∧
      List.Forall₂ related conditions conditions' ∧ AllMatch rewrite related groups groups'

/-- Whether the groups of two lists match one by one. -/
def AllMatch (rewrite : String → String → String) (related : Condition → Condition → Prop) :
    List Group → List Group → Prop
  | [], [] => True
  | g :: r, g' :: r' => g.Matches rewrite related g' ∧ AllMatch rewrite related r r'
  | _, _ => False

end

/-- Labels as they are. -/
def keepLabel (_id label : String) : String := label

end Group

/-- Whether a document is another with its labels rewritten and its conditions replaced. -/
def Document.Matches (rewrite : String → String → String)
    (related : Condition → Condition → Prop) (d d' : Document) : Prop :=
  d'.operator = d.operator ∧ Group.AllMatch rewrite related d.groups d'.groups

/-- A summary with its label rewritten. -/
def Summary.relabel (rewrite : String → String → String) (s : Summary) : Summary :=
  { s with label := rewrite s.id s.label }

section
variable {rewrite : String → String → String} {related other : Condition → Condition → Prop}

namespace Group

theorem allMatch_iff_forall₂ {gs gs' : List Group} :
    AllMatch rewrite related gs gs' ↔ List.Forall₂ (Matches rewrite related) gs gs' := by
  induction gs generalizing gs' with
  | nil => cases gs' <;> simp [AllMatch]
  | cons g r ih =>
      cases gs' with
      | nil => simp [AllMatch]
      | cons g' r' => rw [AllMatch, List.forall₂_cons, ih]

mutual

/-- The conditions of matching groups are related, in the order of the trees. -/
theorem forall₂_occurrences : ∀ g g' : Group, g.Matches rewrite related g' →
    List.Forall₂ (fun o o' => related o.condition o'.condition) g.occurrences g'.occurrences
  | ⟨id, label, operator, conditions, groups⟩, ⟨id', label', operator', conditions', groups'⟩,
    h => by
      rw [Matches] at h
      obtain ⟨rfl, rfl, rfl, hc, hg⟩ := h
      rw [occurrences, occurrences]
      refine List.rel_append ?_ ?_
      · rw [List.forall₂_map_left_iff, List.forall₂_map_right_iff]
        exact hc
      · rw [List.forall₂_map_left_iff, List.forall₂_map_right_iff]
        exact forall₂_allOccurrences groups groups' hg

theorem forall₂_allOccurrences : ∀ gs gs' : List Group, AllMatch rewrite related gs gs' →
    List.Forall₂ (fun o o' => related o.condition o'.condition) (allOccurrences gs)
      (allOccurrences gs')
  | [], [], _ => .nil
  | g :: r, g' :: r', h => by
      rw [AllMatch] at h
      exact List.rel_append (forall₂_occurrences g g' h.1) (forall₂_allOccurrences r r' h.2)

end

mutual

/-- Matching trees match under any relation that their conditions have besides. -/
theorem Matches.imp : ∀ g g' : Group, g.Matches rewrite related g' →
    (∀ o ∈ g.occurrences, ∀ c, related o.condition c → other o.condition c) →
      g.Matches rewrite other g'
  | ⟨id, label, operator, conditions, groups⟩, ⟨id', label', operator', conditions', groups'⟩,
    h, himp => by
      rw [occurrences, List.forall_mem_append, List.forall_mem_map, List.forall_mem_map] at himp
      rw [Matches] at h ⊢
      obtain ⟨hid, hlabel, hop, hc, hg⟩ := h
      have hboth := (List.forall₂_and_left conditions conditions').mpr ⟨himp.1, hc⟩
      exact ⟨hid, hlabel, hop, hboth.imp fun c c' hcc => hcc.1 c' hcc.2,
        AllMatch.imp groups groups' hg himp.2⟩

theorem AllMatch.imp : ∀ gs gs' : List Group, AllMatch rewrite related gs gs' →
    (∀ o ∈ allOccurrences gs, ∀ c, related o.condition c → other o.condition c) →
      AllMatch rewrite other gs gs'
  | [], [], _, _ => trivial
  | g :: r, g' :: r', h, himp => by
      rw [allOccurrences, List.forall_mem_append] at himp
      rw [AllMatch] at h ⊢
      exact ⟨Matches.imp g g' h.1 himp.1, AllMatch.imp r r' h.2 himp.2⟩

end

mutual

/-- Chains are of the same length in matching trees. -/
theorem depth_of_matches : ∀ g g' : Group, g.Matches rewrite related g' → g'.depth = g.depth
  | ⟨id, label, operator, conditions, groups⟩, ⟨id', label', operator', conditions', groups'⟩,
    h => by
      rw [Matches] at h
      rw [depth, depth, depths_of_allMatch groups groups' h.2.2.2.2]

theorem depths_of_allMatch : ∀ gs gs' : List Group, AllMatch rewrite related gs gs' →
    depths gs' = depths gs
  | [], [], _ => rfl
  | g :: r, g' :: r', h => by
      rw [AllMatch] at h
      rw [depths, depths, depth_of_matches g g' h.1, depths_of_allMatch r r' h.2]

end

end Group

/-! ### Whether matching trees hold -/

section
variable {facts facts' : FactTable}

mutual

/-- **Matching groups hold alike** if related conditions do. -/
theorem Group.holds_of_matches
    (hold : ∀ c c' : Condition, related c c' → c.holds facts = c'.holds facts') :
    ∀ g g' : Group, g.Matches rewrite related g' → g.holds facts = g'.holds facts'
  | ⟨id, label, operator, conditions, groups⟩, ⟨id', label', operator', conditions', groups'⟩,
    h => by
      rw [Matches] at h
      obtain ⟨rfl, rfl, rfl, hc, hg⟩ := h
      have hconditions : conditions.map (Condition.holds facts) =
          conditions'.map (Condition.holds facts') := by
        rw [← List.forall₂_eq_eq_eq, List.forall₂_map_left_iff, List.forall₂_map_right_iff]
        exact hc.imp fun c c' => hold c c'
      rw [holds, holds, hconditions, allHold_of_allMatch hold groups groups' hg]

/-- So do lists of them. -/
theorem Group.allHold_of_allMatch
    (hold : ∀ c c' : Condition, related c c' → c.holds facts = c'.holds facts') :
    ∀ gs gs' : List Group, AllMatch rewrite related gs gs' → allHold facts gs = allHold facts' gs'
  | [], [], _ => rfl
  | g :: r, g' :: r', h => by
      rw [AllMatch] at h
      rw [allHold, allHold, holds_of_matches hold g g' h.1, allHold_of_allMatch hold r r' h.2]

end

namespace Document

variable {d d' : Document}
  (hold : ∀ c c' : Condition, related c c' → c.holds facts = c'.holds facts')
include hold

theorem holds_of_matches (h : d.Matches rewrite related d') : d.holds facts = d'.holds facts' := by
  rw [holds, holds, h.1, Group.allHold_of_allMatch hold _ _ h.2]

/-- The summaries of matching documents are the same but for their labels. -/
theorem groupSummaries_of_matches (h : d.Matches rewrite related d') :
    d'.groupSummaries facts' = (d.groupSummaries facts).map (Summary.relabel rewrite) := by
  rw [groupSummaries, groupSummaries, List.map_map, ← List.forall₂_eq_eq_eq,
    List.forall₂_map_left_iff, List.forall₂_map_right_iff]
  have hg := (Group.allMatch_iff_forall₂.mp h.2).flip
  refine hg.imp fun g' g hm => ?_
  have hholds := Group.holds_of_matches hold g g' hm
  obtain ⟨id, label, operator, conditions, groups⟩ := g
  obtain ⟨id', label', operator', conditions', groups'⟩ := g'
  rw [Group.Matches] at hm
  obtain ⟨rfl, rfl, -⟩ := hm
  rw [← hholds]
  rfl

end Document
end

/-- Groups that match, with their labels, have the same summaries for the same results. -/
theorem summariesOf_of_matches {gs gs' : List Group}
    (h : List.Forall₂ (Group.Matches Group.keepLabel related) gs gs') (results : List Bool) :
    summariesOf gs results = summariesOf gs' results := by
  induction h generalizing results with
  | nil => rfl
  | @cons g g' r r' hm _ ih =>
      obtain ⟨id, label, operator, conditions, groups⟩ := g
      obtain ⟨id', label', operator', conditions', groups'⟩ := g'
      rw [Group.Matches] at hm
      obtain ⟨rfl, rfl, -⟩ := hm
      cases results with
      | nil => rfl
      | cons b bs => exact congrArg (List.cons _) (ih bs)

/-! ### What visits of matching trees leave -/

theorem Reported.andThen_assoc {α β γ : Type} (x : Reported α) (f : α → Reported β)
    (g : β → Reported γ) : (x.andThen f).andThen g = x.andThen fun a => (f a).andThen g := by
  obtain ⟨ns, result⟩ := x
  cases result with
  | error e => rfl
  | ok a =>
      simp only [andThen]
      cases (f a).result with
      | error e => rfl
      | ok b => simp only [List.append_assoc]

/-- A traced result with its lines changed. -/
def Traced.mapLines {α : Type} (view : Line → Line) (x : Traced α) : Traced α :=
  ⟨x.lines.map view, x.report⟩

/-- An outcome with its lines changed. -/
def Outcome.mapLines (view : Line → Line) (o : Outcome) : Outcome :=
  { o with lines := o.lines.map view }

namespace Traced

variable {α β : Type} (view : Line → Line)

theorem mapLines_done (a : α) : (done a).mapLines view = done a := rfl

theorem mapLines_note (n : Notice) : (note n).mapLines view = note n := rfl

theorem mapLines_andThen (x : Traced α) (f : α → Traced β) :
    (x.andThen f).mapLines view = (x.mapLines view).andThen fun a => (f a).mapLines view := by
  obtain ⟨ls, ns, result⟩ := x
  cases result with
  | ok a => simp only [andThen, mapLines, List.map_append]
  | error e => rfl

end Traced

/-- Whether visits of two conditions, each for its facts, leave the same result and notices, and lines
that look alike. -/
def Condition.LookAlike (view : Line → Line) (labels : Labels) (facts facts' : FactTable)
    (c c' : Condition) : Prop :=
  ∀ index path, (c.visit ⟨facts, labels, index⟩ path).mapLines view =
    (c'.visit ⟨facts', labels, index⟩ path).mapLines view

section
variable {facts facts' : FactTable} {labels : Labels} {view : Line → Line}

/-- Conditions whose lines look alike, with the outcome in view, are visited alike. -/
theorem Condition.lookAlike_of_lines {c c' : Condition} (hview : ∀ l, (view l).passed = l.passed)
    (h : ∀ index path, (c.line? ⟨facts, labels, index⟩ path).map view =
      (c'.line? ⟨facts', labels, index⟩ path).map view) : c.LookAlike view labels facts facts' c' := by
  intro index path
  have hline := h index path
  unfold visit
  cases hc : c.line? ⟨facts, labels, index⟩ path with
  | none =>
      rw [hc] at hline
      rw [Option.map_eq_none_iff.mp hline.symm]
  | some l =>
      rw [hc] at hline
      obtain ⟨l', hc', heq⟩ := Option.map_eq_some_iff.mp hline.symm
      have hpassed : l.passed = l'.passed := by rw [← hview l, ← hview l', heq]
      rw [hc']
      dsimp only
      rw [hpassed]
      exact congrArg (fun line => (⟨[line], [], .ok l'.passed⟩ : Traced Bool)) heq.symm

theorem Condition.mapLines_visitAll
    (look : ∀ c c', related c c' → LookAlike view labels facts facts' c c') (index : Value)
    (path : String) {cs cs' : List Condition} (h : List.Forall₂ related cs cs') :
    (visitAll ⟨facts, labels, index⟩ path cs).mapLines view =
      (visitAll ⟨facts', labels, index⟩ path cs').mapLines view := by
  induction h with
  | nil => rfl
  | cons h _ ih =>
      rw [visitAll, visitAll]
      simp only [Traced.mapLines_andThen, Traced.mapLines_done, look _ _ h index path, ih]

mutual

/-- **Visits of matching groups** leave the same result and notices, and lines that look alike, if
visits of related conditions do. -/
theorem Group.mapLines_visit
    (look : ∀ c c', related c c' → Condition.LookAlike view labels facts facts' c c')
    (index : Value) : ∀ (parent : String) (g g' : Group),
    g.Matches keepLabel related g' →
      (g.visit ⟨facts, labels, index⟩ parent).mapLines view =
        (g'.visit ⟨facts', labels, index⟩ parent).mapLines view
  | parent, ⟨id, label, operator, conditions, groups⟩,
    ⟨id', label', operator', conditions', groups'⟩, h => by
      rw [Matches] at h
      obtain ⟨rfl, rfl, rfl, hc, hg⟩ := h
      rw [visit, visit]
      simp only [Traced.mapLines_andThen, Traced.mapLines_done, Traced.mapLines_note,
        Condition.mapLines_visitAll look index _ hc,
        mapLines_visitAll look index _ groups groups' hg, displayName]

theorem Group.mapLines_visitAll
    (look : ∀ c c', related c c' → Condition.LookAlike view labels facts facts' c c')
    (index : Value) : ∀ (parent : String) (gs gs' : List Group),
    AllMatch keepLabel related gs gs' →
      (visitAll ⟨facts, labels, index⟩ parent gs).mapLines view =
        (visitAll ⟨facts', labels, index⟩ parent gs').mapLines view
  | _, [], [], _ => rfl
  | parent, g :: r, g' :: r', h => by
      rw [AllMatch] at h
      rw [visitAll, visitAll]
      simp only [Traced.mapLines_andThen, Traced.mapLines_done,
        mapLines_visit look index parent g g' h.1, mapLines_visitAll look index parent r r' h.2]

end

section
variable (look : ∀ c c', related c c' → Condition.LookAlike view labels facts facts' c c')
include look

theorem Group.mapLines_visitTop (index : Nat) {gs gs' : List Group}
    (h : List.Forall₂ (Matches keepLabel related) gs gs') :
    (visitTop facts labels index gs).mapLines view =
      (visitTop facts' labels index gs').mapLines view := by
  induction h generalizing index with
  | nil => rfl
  | cons h _ ih =>
      rw [visitTop, visitTop]
      simp only [Traced.mapLines_andThen, Traced.mapLines_done, mapLines_visit look _ _ _ _ h, ih]

namespace Document

variable {d d' : Document}

theorem mapLines_visit (h : d.Matches Group.keepLabel related d') :
    (d.visit facts labels).mapLines view = (d'.visit facts' labels).mapLines view :=
  Group.mapLines_visitTop look 0 (Group.allMatch_iff_forall₂.mp h.2)

theorem mapLines_verdict (h : d.Matches Group.keepLabel related d') :
    (d.verdict facts labels).mapLines view = (d'.verdict facts' labels).mapLines view := by
  simp only [verdict, Traced.mapLines_andThen, Traced.mapLines_done, mapLines_visit look h, h.1]

theorem summaries_of_matches (h : d.Matches Group.keepLabel related d')
    (hlabels : labels = Keyed.empty) : d.summaries facts = d'.summaries facts' := by
  subst hlabels
  obtain ⟨-, hreport⟩ := Traced.mk.inj (mapLines_visit look h)
  have hgroups := Group.allMatch_iff_forall₂.mp h.2
  simp only [summaries, hreport, summariesOf_of_matches hgroups]

/-- **Evaluations of matching documents** end alike, with the same notices, and lines that look
alike. -/
theorem mapLines_evaluate (h : d.Matches Group.keepLabel related d') :
    ((d.evaluate facts labels).andThen fun o => .done (o.mapLines view)) =
      (d'.evaluate facts' labels).andThen fun o => .done (o.mapLines view) := by
  obtain ⟨hlines, hreport⟩ := Traced.mk.inj (mapLines_visit look h)
  have hlength := congrArg List.length hlines
  rw [List.length_map, List.length_map] at hlength
  have hgroups := Group.allMatch_iff_forall₂.mp h.2
  simp only [evaluate, Reported.andThen_assoc, Reported.done_andThen, Outcome.mapLines, hreport,
    hlength, hlines, h.1, hgroups.length_eq, summariesOf_of_matches hgroups]

end Document
end
end
end

end Verdict
