/-
# The order of a trace

Evaluating a document adds to a trace one line for each condition of the tree, whatever the others
come to: the conditions of a group before those of its subgroups, and all of them from left to
right.  A line has the path of its condition and the position of its top-level group, so that the
lines of one group can be told from those of the others (`lines_in_order`).
-/

import Mathlib.Data.List.Basic
import Verdict.Proofs.Supplied

namespace Verdict

namespace Group

mutual

/-- The literals of a group are those of its conditions, in order. -/
theorem literals_eq_map : ∀ g : Group, g.literals = g.occurrences.map (·.condition.value)
  | ⟨id, label, operator, conditions, groups⟩ => by
      rw [literals, occurrences, List.map_append, List.map_map, List.map_map,
        allLiterals_eq_map groups]
      rfl

/-- The literals of a list of groups are those of their conditions, in order. -/
theorem allLiterals_eq_map :
    ∀ gs : List Group, allLiterals gs = (allOccurrences gs).map (·.condition.value)
  | [] => rfl
  | g :: r => by
      rw [allLiterals, allOccurrences, List.map_append, literals_eq_map g, allLiterals_eq_map r]

end

variable (facts : FactTable) (labels : Labels) {index other : Option Int} (parent : String)
  (g : Group)

/-- All lines of a group have its position. -/
theorem ofGroup_lines_self :
    (g.lines facts labels index parent).ofGroup index = g.lines facts labels index parent := by
  rw [Trace.ofGroup, List.filter_eq_self]
  intro l hl
  obtain ⟨o, -, rfl⟩ := List.mem_map.mp hl
  exact beq_self_eq_true index

/-- No line of a group has another position. -/
theorem ofGroup_lines_of_ne (h : index ≠ other) :
    (g.lines facts labels index parent).ofGroup other = [] := by
  rw [Trace.ofGroup, List.filter_eq_nil_iff]
  intro l hl
  obtain ⟨o, -, rfl⟩ := List.mem_map.mp hl
  rw [beq_iff_eq]
  exact h

end Group

/-- The lists of the members of a numbered list are empty but for one number. -/
theorem flatMap_zipIdx_eq {α β : Type} {f : α × Nat → List β} {xs : List α} {start n : Nat}
    (h : ∀ p ∈ xs.zipIdx start, p.2 ≠ start + n → f p = []) :
    (xs.zipIdx start).flatMap f = (xs[n]?).elim [] fun x => f (x, start + n) := by
  induction xs generalizing start n with
  | nil => rfl
  | cons x r ih =>
      rw [List.zipIdx_cons] at h ⊢
      rw [List.forall_mem_cons] at h
      rw [List.flatMap_cons]
      cases n with
      | zero =>
          have hr : (r.zipIdx (start + 1)).flatMap f = [] := by
            rw [List.flatMap_eq_nil_iff]
            intro p hp
            have := (List.mem_zipIdx hp).1
            exact h.2 p hp (by omega)
          rw [hr, List.append_nil]
          rfl
      | succ n =>
          have he : start + (n + 1) = start + 1 + n := by omega
          rw [h.1 (by dsimp only; omega), List.nil_append, List.getElem?_cons_succ, he]
          exact ih fun p hp hne => h.2 p hp (he ▸ hne)

namespace Document

/-- The lines of the top-level group at a position, if there is one. -/
def linesAt (d : Document) (facts : FactTable) (labels : Labels) : Option Int → Trace
  | some (.ofNat n) => (d.groups[n]?).elim [] fun g => g.lines facts labels (some n) rootPath
  | _ => []

variable (d : Document) (facts : FactTable) (labels : Labels)

/-- The lines that a position picks from those of a document are those of the group there. -/
theorem ofGroup_lines (index : Option Int) :
    (d.lines facts labels).ofGroup index = d.linesAt facts labels index := by
  rw [lines, Trace.ofGroup, List.filter_flatMap]
  have hne : ∀ p : Group × Nat, some (p.2 : Int) ≠ index →
      (p.1.lines facts labels (some p.2) rootPath).filter (·.groupIndex == index) = [] := by
    intro p
    exact Group.ofGroup_lines_of_ne facts labels rootPath p.1
  cases index with
  | none =>
      rw [linesAt, List.flatMap_eq_nil_iff]
      · intro p _
        exact hne p (Option.some_ne_none _)
      · intro m hm
        cases hm
  | some i =>
      cases i with
      | ofNat n =>
          rw [flatMap_zipIdx_eq (n := n)]
          · rw [linesAt, Nat.zero_add]
            congr 1
            funext g
            exact Group.ofGroup_lines_self facts labels rootPath g
          · intro p _ hp
            refine hne p fun he => hp ?_
            have := Int.ofNat.inj (Option.some.inj he)
            omega
      | negSucc n =>
          rw [linesAt, List.flatMap_eq_nil_iff]
          · intro p _
            refine hne p fun he => ?_
            have := Option.some.inj he
            omega
          · intro m hm
            cases hm

/-- Every line echoes its literal, and the literals come in the order of the document. -/
theorem map_expected_lines :
    (d.lines facts labels).map (·.expected) = d.literals.map fun l => l.toValue.echo := by
  rw [literals, Group.allLiterals_eq_map, List.map_map]
  exact d.map_lines facts fun _ _ => rfl

end Document

/-- **Evaluations add their lines to a trace in the order of the tree.**  Whatever rules stand for
the document, whatever the facts and the outcomes of the conditions, for labels that are texts, and
onto any trace:

* a document adds the lines of its conditions, those of the first top-level group first, and a
  group below a path adds the lines of its conditions (`Group.lines`); the lines before stay;
* an outcome has the lines of its document and no others, and their literals are those of the
  document, in order;
* of the lines that a document adds, a position picks those of the top-level group there. -/
theorem lines_in_order {own added : Labels} {rules facts labels : Value} {d : Document}
    {table : FactTable} (hown : own.AreTexts) (hd : (Document.read rules).result = .ok d)
    (hf : FactTable.ofValue? facts = some table) (hl : Labels.ofValue? labels = some added)
    (ha : added.AreTexts) :
    (∀ sink, ((verdictOfRules rules facts labels).onto sink).1 =
        sink ++ d.lines table (Keyed.empty.merge added)) ∧
      (∀ sink index, ((verdictOfRules rules facts labels).onto sink).1.ofGroup index =
        sink.ofGroup index ++ d.linesAt table (Keyed.empty.merge added) index) ∧
      (∀ g path position index sink, Line.index? position = some index →
        ((verdictOfGroup g path position facts labels).onto sink).1 =
          sink ++ g.lines table (Keyed.empty.merge added) index path) ∧
      ∃ o, (evaluateRules own rules facts labels).result = .ok o ∧
        o.lines = d.lines table (own.merge added) ∧
        (o.lines.map (·.expected) = d.literals.map fun l => l.toValue.echo) ∧
        ∀ index, o.lines.ofGroup index = d.linesAt table (own.merge added) index := by
  have hr : Document.read rules = ⟨(Document.read rules).notices, .ok d⟩ := by rw [← hd]
  have hv := verdictOfRules_eq hr hf hl ha
  have ho := congrArg Reported.result (evaluateRules_eq hown hr hf hl ha)
  refine ⟨?_, ?_, ?_, _, ho, rfl, d.map_expected_lines _ _, d.ofGroup_lines _ _⟩
  · intro sink
    rw [hv, Traced.onto]
  · intro sink index
    rw [hv, Traced.onto, ← d.ofGroup_lines]
    exact List.filter_append ..
  · intro g path position index sink hi
    rw [verdictOfGroup_eq g path hi hf hl ha, Traced.onto]

/-- The hypotheses of `lines_in_order` are satisfiable.  In the sample the first group fails its
condition and the second one of two; the conditions all leave their lines, after a line that was
there before. -/
theorem lines_in_order_sample :
    let before : Line := ⟨"ROOT", "t", "t", "=", .null, .null, true, some 0⟩
    let shown (l : Line) := (l.path, l.token, l.label, l.passed, l.groupIndex)
    let income := ("ROOT > Income", "INCOME", "Monthly income", false, some 1)
    let resident := ("ROOT > Income", "Resident", "Resident", true, some 1)
    ((verdictOfRules Sample.rules Sample.facts Sample.labels).onto [before]).1.map shown =
        [("ROOT", "t", "t", true, some 0), ("ROOT > outer", "age", "age", false, some 0), income,
          resident] ∧
      ∃ o, (evaluateRules Keyed.empty Sample.rules Sample.facts Sample.labels).result = .ok o ∧
        (o.lines.ofGroup (some 1)).map shown = [income, resident] := by
  intro before shown income resident
  have hd : (Document.read Sample.rules).result = .ok Sample.document := rfl
  have hf : FactTable.ofValue? Sample.facts = some Sample.table := rfl
  have hl : Labels.ofValue? Sample.labels = some Sample.catalog := rfl
  obtain ⟨hs, -, -, o, ho, -, -, hi⟩ :=
    lines_in_order Labels.areTexts_empty hd hf hl Sample.areTexts_catalog
  refine ⟨?_, o, ho, ?_⟩
  · rw [hs [before]]
    decide +kernel
  · rw [hi (some 1)]
    decide +kernel

end Verdict
