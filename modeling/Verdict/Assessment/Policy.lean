/-
# Assessment policies

A policy says whether failures that the caller found beforehand block an assessment, which
tokens are reported as parameters, and which messages announce the verdict.

| member | when absent |
| --- | --- |
| `block_on_validation_failures` | true |
| `parameters_considered` | none |
| `validation_failed_message` | `Validation failed.` |
| `eligible_message` | `Eligible` |
| `not_eligible_message` | `Not Eligible` |
-/

import Verdict.Value.Lenient

namespace Verdict

/-- How an assessment treats failures, and what it reports. -/
structure Policy where
  blocks : Bool
  parameters : List String
  blockedMessage : String
  eligibleMessage : String
  ineligibleMessage : String
deriving DecidableEq, Repr

namespace Policy

/-- The policy without any member given. -/
def standard : Policy := ⟨true, [], "Validation failed.", "Eligible", "Not Eligible"⟩

/-- The reading of a member, or what stands for it where it is absent. -/
def member? {α : Type} (read? : Value → Option α) (absent : α) (name : String)
    (fields : List (String × Value)) : Option α :=
  match Value.lookup? name fields with
  | some v => read? v
  | none => some absent

/-- The texts of a value in a field that lists texts. -/
def textList? : Value → Option (List String)
  | .list items => Value.asTexts? items
  | _ => none

/-- The policy that an object's members describe. -/
def ofFields? (fields : List (String × Value)) : Option Policy := do
  let blocks ← member? Value.asBool? standard.blocks "block_on_validation_failures" fields
  let parameters ← member? textList? standard.parameters "parameters_considered" fields
  let blocked ← member? Value.asText? standard.blockedMessage "validation_failed_message" fields
  let eligible ← member? Value.asText? standard.eligibleMessage "eligible_message" fields
  let ineligible ← member? Value.asText? standard.ineligibleMessage "not_eligible_message" fields
  pure ⟨blocks, parameters, blocked, eligible, ineligible⟩

/-- The policy that a supplied value describes; null leaves it to another. -/
def ofValue? : Value → Option (Option Policy)
  | .null => some none
  | .object fields => (ofFields? fields).map some
  | _ => none

end Policy
end Verdict
