/-
# Notices

What an operation reports on its way.  Each notice has a severity, the name of its event
and named fields.
-/

import Verdict.Criteria.Operator

namespace Verdict

/-- How much a notice matters. -/
inductive Severity where
  | debug
  | info
  | warning
deriving DecidableEq, Repr

/-- The word for a severity. -/
def Severity.word : Severity → String
  | .debug => "debug"
  | .info => "info"
  | .warning => "warning"

/-- Something that an operation reports. -/
inductive Notice where
  | undecodable
  | notAnObject (typeName : String)
  | withoutGroups
  | invalid
  | fileUnparseable (file : String)
  | fileEmpty (file : String)
  | fileUnreadable (file : String)
  | loaded (count : Nat)
  | directoryMissing
  | groupEvaluated (path : String) (operator : Combinator) (result : Bool)
  | evaluated (overall : Bool) (groups lines : Nat)
  | summarized (id label : String) (passed : Bool)
  | blocked (failures : Nat)
  | assessed (eligible : Bool) (failures : Nat)
deriving DecidableEq, Repr

namespace Notice

/-- How much a notice matters: rules that cannot be used are worth a warning. -/
def severity : Notice → Severity
  | .undecodable | .notAnObject _ | .withoutGroups | .invalid | .fileUnparseable _ | .fileEmpty _
  | .fileUnreadable _ | .directoryMissing => .warning
  | .loaded _ | .blocked _ | .assessed _ _ => .info
  | .groupEvaluated _ _ _ | .evaluated _ _ _ | .summarized _ _ _ => .debug

/-- The name of a notice's event. -/
def event : Notice → String
  | .undecodable => "rule_document_undecodable"
  | .notAnObject _ => "rule_document_not_an_object"
  | .withoutGroups => "rule_document_without_groups"
  | .invalid => "rule_document_invalid"
  | .fileUnparseable _ => "rule_file_unparseable"
  | .fileEmpty _ => "rule_file_empty"
  | .fileUnreadable _ => "rule_file_unreadable"
  | .loaded _ => "rules_loaded"
  | .directoryMissing => "rules_directory_missing"
  | .groupEvaluated _ _ _ => "group_evaluated"
  | .evaluated _ _ _ => "rules_evaluated"
  | .summarized _ _ _ => "criteria_summary"
  | .blocked _ => "eligibility_validation_failed"
  | .assessed _ _ => "eligibility_assessed"

/-- The fields of a notice. -/
def fields : Notice → List (String × Value)
  | .undecodable | .withoutGroups | .invalid | .directoryMissing => []
  | .notAnObject typeName => [("received", .text typeName)]
  | .fileUnparseable file | .fileEmpty file | .fileUnreadable file => [("path", .text file)]
  | .loaded count => [("count", .int count)]
  | .groupEvaluated path operator result =>
    [("path", .text path), ("operator", .text operator.word), ("result", .bool result)]
  | .evaluated overall groups lines =>
    [("overall", .bool overall), ("groups", .int groups), ("lines", .int lines)]
  | .summarized id label passed =>
    [("group_id", .text id), ("label", .text label), ("passed", .bool passed)]
  | .blocked failures => [("failures", .int failures)]
  | .assessed eligible failures =>
    [("eligible", .bool eligible), ("soft_failures", .int failures)]

end Notice

end Verdict
