/-
# Assessments by a shared evaluator

An assessor may have an evaluator that others use as well, and then knows the place of its catalogue.
Where a call brings labels, they are laid over this catalogue twice: for the evaluation, and for the
parameters that the assessment reports.
-/

import Verdict.Assessment.Basic
import Verdict.Evaluation.Catalogues

namespace Verdict
namespace Policy

/-- The assessment by the outcome of a document, with the catalogues that it leaves. -/
def assessedBy (p : Policy) (s : Catalogues) (own : Nat) (d : Document) (facts : FactTable)
    (failures : List Value) (labels : Value) : Catalogues × Reported Assessment :=
  let (s, used) := s.forCall own labels
  let evaluated := used.andThen fun place => d.evaluate facts (s.get place)
  match evaluated.result with
  | .error e => (s, ⟨evaluated.notices, .error e⟩)
  | .ok outcome =>
    let (s, shown) := s.forCall own labels
    (s, evaluated.andThen fun _ => shown.andThen fun place =>
      p.concluded facts failures outcome (s.get place))

/-- Assesses supplied facts by a document under a policy, with the evaluator whose catalogue is at a
place. -/
def assessBy (p : Policy) (s : Catalogues) (own : Nat) (d : Document) (facts : Value)
    (failures : List Value) (labels : Value) : Catalogues × Reported Assessment :=
  match FactTable.ofValue? facts with
  | none => (s, .fail .noMembers)
  | some table =>
    if p.stops failures then (s, p.blocked failures)
    else p.assessedBy s own d table failures labels

end Policy
end Verdict
