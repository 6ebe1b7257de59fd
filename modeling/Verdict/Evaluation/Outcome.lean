/-
# The outcome of an evaluation

One visit of a document gives its verdict, the trace and a summary of each top-level group.
-/

import Verdict.Criteria.Reading
import Verdict.Evaluation.Visit

namespace Verdict

/-- Whether a top-level group passed. -/
structure Summary where
  id : String
  label : String
  passed : Bool
deriving DecidableEq, Repr

/-- What evaluating a document gives. -/
structure Outcome where
  overall : Bool
  lines : Trace
  summaries : List Summary

/-- A summary as a payload shows it. -/
def Summary.toValue (s : Summary) : Value :=
  .object [("id", .text s.id), ("label", .text s.label), ("pass", .bool s.passed)]

/-- An outcome as a payload shows it. -/
def Outcome.toValue (o : Outcome) : Value :=
  .object [("overall", .bool o.overall), ("lines", .list (o.lines.map Line.toValue)),
    ("groupSummaries", .list (o.summaries.map Summary.toValue))]

/-- The summaries of groups and their results. -/
def summariesOf (groups : List Group) (results : List Bool) : List Summary :=
  groups.zipWith (fun g passed => ⟨g.id, g.label, passed⟩) results

/-- The notice of a summary. -/
def Summary.notice (s : Summary) : Notice := .summarized s.id s.label s.passed

/-- Reports summaries. -/
def reportSummaries (summaries : List Summary) : Reported (List Summary) :=
  ⟨summaries.map Summary.notice, .ok summaries⟩

/-- Evaluates a document. -/
def Document.evaluate (d : Document) (facts : FactTable) (labels : Labels) : Reported Outcome :=
  let visited := d.visit facts labels
  visited.report.andThen fun results =>
    let overall := d.operator.reduce results
    (Reported.note (.evaluated overall d.groups.length visited.lines.length)).andThen fun _ =>
    (reportSummaries (summariesOf d.groups results)).andThen fun summaries =>
      .done ⟨overall, visited.lines, summaries⟩

/-- The verdict of a document, its lines added to a trace. -/
def Document.verdict (d : Document) (facts : FactTable) (labels : Labels) : Traced Bool :=
  (d.visit facts labels).andThen fun results => .done (d.operator.reduce results)

/-- The summaries of a document, without its trace. -/
def Document.summaries (d : Document) (facts : FactTable) : Reported (List Summary) :=
  (d.visit facts Keyed.empty).report.andThen fun results =>
    reportSummaries (summariesOf d.groups results)

/-- The table of supplied facts. -/
def suppliedFacts (facts : Value) : Reported FactTable :=
  .ofOption .noMembers (FactTable.ofValue? facts)

/-- The labels of an evaluator under those supplied with a call. -/
def suppliedLabels (own : Labels) (labels : Value) : Reported Labels :=
  .ofOption .noMembers (own.overlay? labels)

/-- Evaluates supplied rules against supplied facts. -/
def evaluateRules (own : Labels) (rules facts labels : Value) : Reported Outcome :=
  (Document.read rules).andThen fun d =>
  (suppliedLabels own labels).andThen fun catalog =>
  (suppliedFacts facts).andThen fun table => d.evaluate table catalog

/-- The verdict of supplied rules against supplied facts. -/
def verdictOfRules (rules facts labels : Value) : Traced Bool :=
  (Traced.ofReported (Document.read rules)).andThen fun d =>
  (Traced.ofReported (suppliedFacts facts)).andThen fun table =>
  (Traced.ofReported (suppliedLabels Keyed.empty labels)).andThen fun catalog =>
    d.verdict table catalog

/-- Whether a group below a path holds, its lines added to a trace. -/
def verdictOfGroup (g : Group) (path : String) (index facts labels : Value) : Traced Bool :=
  (Traced.ofReported (suppliedFacts facts)).andThen fun table =>
  (Traced.ofReported (suppliedLabels Keyed.empty labels)).andThen fun catalog =>
    g.visit ⟨table, catalog, index⟩ path

/-- The summaries of supplied rules against supplied facts. -/
def summariesOfRules (rules facts : Value) : Reported (List Summary) :=
  (Document.read rules).andThen fun d =>
  (suppliedFacts facts).andThen fun table => d.summaries table

end Verdict
