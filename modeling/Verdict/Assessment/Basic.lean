/-
# Assessments

An assessment puts the failures that the caller found before the verdict of the rules.

| failures | policy | result |
| --- | --- | --- |
| some | blocking | ineligible with the failures alone; the rules are not looked at |
| any | otherwise | the outcome of the rules, with the failures, the parameters and the facts |

A parameter is reported as `label = value`; one that has no text ends the assessment.  An assessor has a
policy of its own, which a call may replace as a whole.
-/

import Verdict.Assessment.Policy
import Verdict.Evaluation.Outcome

namespace Verdict

/-- What an assessment gives. -/
structure Assessment where
  eligible : Bool
  message : String
  failures : List String
  summaries : List Summary
  parameters : List String
  lines : Trace
  facts : List (String × Value)

/-- An assessment as a payload shows it. -/
def Assessment.toValue (a : Assessment) : Value :=
  .object [("isEligible", .bool a.eligible), ("resultMessage", .text a.message),
    ("validationFailures", .list (a.failures.map .text)),
    ("criteriaSummary", .list (a.summaries.map Summary.toValue)),
    ("parametersConsidered", .list (a.parameters.map .text)),
    ("lines", .list (a.lines.map Line.toValue)),
    ("facts", .object (a.facts.map fun f => (f.1, f.2.payload)))]

namespace Policy

/-- The line that reports a token's fact, if there is a text of the fact and of the label. -/
def parameter? (facts : FactTable) (labels : Labels) (token : String) : Option String :=
  (facts.lookup token).describe? (labels.describe token)

/-- The lines that report the facts of a policy's parameters, if there is one for each. -/
def parameterLines? (p : Policy) (facts : FactTable) (labels : Labels) : Option (List String) :=
  p.parameters.mapM (parameter? facts labels)

/-- The message that announces a verdict. -/
def verdictMessage (p : Policy) (eligible : Bool) : String :=
  if eligible then p.eligibleMessage else p.ineligibleMessage

/-- Whether a policy stops an assessment with these failures. -/
def stops (p : Policy) (failures : List Value) : Bool := p.blocks && !failures.isEmpty

/-- The texts of failures: each has to be one. -/
def failureTexts (failures : List Value) : Reported (List String) :=
  .ofOption .shape (Value.asTexts? failures)

/-- The assessment that failures stop. -/
def blocked (p : Policy) (failures : List Value) : Reported Assessment :=
  (Reported.note (.blocked failures.length)).andThen fun _ =>
  (failureTexts failures).andThen fun texts =>
    .done ⟨false, p.blockedMessage, texts, [], [], [], []⟩

/-- The assessment that an outcome leads to. -/
def concluded (p : Policy) (facts : FactTable) (failures : List Value) (outcome : Outcome)
    (catalog : Labels) : Reported Assessment :=
  (Reported.note (.assessed outcome.overall failures.length)).andThen fun _ =>
  (Reported.ofOption .tooManyDigits (p.parameterLines? facts catalog)).andThen fun parameters =>
  (failureTexts failures).andThen fun texts =>
    .done ⟨outcome.overall, p.verdictMessage outcome.overall, texts, outcome.summaries, parameters,
      outcome.lines, facts.echoes⟩

/-- The assessment by the outcome of a document. -/
def assessed (p : Policy) (own : Labels) (document : Reported Document) (facts : FactTable)
    (failures : List Value) (labels : Value) : Reported Assessment :=
  document.andThen fun d =>
  (suppliedLabels own labels).andThen fun catalog =>
  (d.evaluate facts catalog).andThen fun outcome => p.concluded facts failures outcome catalog

/-- Assesses supplied facts under a policy.  The document is looked at only if no failure
stops the assessment. -/
def assess (p : Policy) (own : Labels) (document : Reported Document) (facts : Value)
    (failures : List Value) (labels : Value) : Reported Assessment :=
  (suppliedFacts facts).andThen fun table =>
    if p.stops failures then p.blocked failures
    else p.assessed own document table failures labels

/-- The failures that a supplied value lists: a text lists its characters. -/
def failuresOf : Value → List Value
  | .list items => items
  | .text s => s.toList.map fun c => .text c.toString
  | .object fields => fields.map fun f => .text f.1
  | _ => []

end Policy

/-- What an assessor goes by: the labels of its evaluator, and the policy for calls without one. -/
structure Assessor where
  labels : Labels
  policy : Policy

namespace Assessor

/-- The policy of a call: its own, if it has one. -/
def policyOf (a : Assessor) (call : Option Policy) : Policy := call.getD a.policy

/-- Assesses supplied facts. -/
def assess (a : Assessor) (call : Option Policy) (document : Reported Document) (facts : Value)
    (failures : List Value) (labels : Value) : Reported Assessment :=
  (a.policyOf call).assess a.labels document facts failures labels

end Assessor
end Verdict
