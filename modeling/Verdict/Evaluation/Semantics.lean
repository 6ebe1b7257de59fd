/-
# What a document means

A condition holds when its operator names a comparison that holds between the fact under its
token and its literal.  A group combines what its conditions and its subgroups mean, a
document what its groups mean.  Nothing is recorded here; `Verdict.Evaluation.Visit` records.
-/

import Verdict.Criteria.Document
import Verdict.Fact.Table

namespace Verdict

/-- Whether a comparison holds between a fact and a literal: an operator that names none
fails. -/
def Condition.accepts (c : Condition) (actual : Fact) : Bool :=
  match c.comparison? with
  | some op => op.holds actual.content (Content.of c.value.toValue)
  | none => false

/-- Whether a condition holds for a table of facts. -/
def Condition.holds (facts : FactTable) (c : Condition) : Bool := c.accepts (facts.lookup c.token)

namespace Group

mutual

/-- Whether a group holds for a table of facts. -/
def holds (facts : FactTable) : Group → Bool
  | ⟨_, _, operator, conditions, groups⟩ =>
    operator.reduce (conditions.map (Condition.holds facts) ++ allHold facts groups)

/-- Which groups of a list hold. -/
def allHold (facts : FactTable) : List Group → List Bool
  | [] => []
  | g :: r => g.holds facts :: allHold facts r

end

/-- Each group of a list is judged for itself. -/
theorem allHold_eq_map (facts : FactTable) (groups : List Group) :
    allHold facts groups = groups.map (holds facts) := by
  induction groups with
  | nil => rfl
  | cons g r ih => rw [allHold, ih, List.map_cons]

end Group

/-- Whether a document holds for a table of facts. -/
def Document.holds (facts : FactTable) (d : Document) : Bool :=
  d.operator.reduce (Group.allHold facts d.groups)

end Verdict
