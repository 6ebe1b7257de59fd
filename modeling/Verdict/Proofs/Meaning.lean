/-
# How results combine

A group under `AND` holds exactly when everything in it holds, so an empty one holds; a group
under `OR` holds exactly when something in it holds, so an empty one does not.  Documents combine
their groups in the same way.  `Group.holds_iff` and `Document.holds_iff` say this of the
evaluators of `Verdict.Evaluation.Semantics` at every depth of a tree.
-/

import Verdict.Evaluation.Semantics

namespace Verdict

namespace Combinator

@[simp] theorem reduce_all_eq_true (results : List Bool) :
    reduce .all results = true ↔ ∀ b ∈ results, b = true := by
  simp [reduce]

@[simp] theorem reduce_any_eq_true (results : List Bool) :
    reduce .any results = true ↔ ∃ b ∈ results, b = true := by
  simp [reduce]

end Combinator

namespace Group

theorem holds_eq_reduce (facts : FactTable) (g : Group) :
    g.holds facts =
      g.operator.reduce (g.conditions.map (Condition.holds facts) ++ g.groups.map (holds facts)) := by
  obtain ⟨_, _, operator, conditions, groups⟩ := g
  rw [holds, allHold_eq_map]

/-- **What a group means.**  Under `AND` all its conditions and subgroups hold, under `OR` one of
them does. -/
theorem holds_iff (facts : FactTable) (g : Group) :
    g.holds facts = true ↔
      match g.operator with
      | .all => (∀ c ∈ g.conditions, c.holds facts = true) ∧
          ∀ sub ∈ g.groups, sub.holds facts = true
      | .any => (∃ c ∈ g.conditions, c.holds facts = true) ∨
          ∃ sub ∈ g.groups, sub.holds facts = true := by
  rw [holds_eq_reduce]
  cases g.operator with
  | all => simp [or_imp, forall_and]
  | any => simp

end Group

namespace Document

theorem holds_eq_reduce (facts : FactTable) (d : Document) :
    d.holds facts = d.operator.reduce (d.groups.map (Group.holds facts)) := by
  rw [holds, Group.allHold_eq_map]

/-- **What a document means.**  Under `AND` all its groups hold, under `OR` one of them does. -/
theorem holds_iff (facts : FactTable) (d : Document) :
    d.holds facts = true ↔
      match d.operator with
      | .all => ∀ g ∈ d.groups, g.holds facts = true
      | .any => ∃ g ∈ d.groups, g.holds facts = true := by
  rw [holds_eq_reduce]
  cases d.operator with
  | all => simp
  | any => simp

end Document

end Verdict
