/-
# Fact tables

A fact table pairs tokens with facts; tokens are matched by their case folding.  A token
that is not in the table stands for the absent fact.
-/

import Verdict.Fact.Basic
import Verdict.Fact.Keyed
import Verdict.Report.Failure

namespace Verdict

/-- Tokens with their facts. -/
abbrev FactTable := Keyed Fact

namespace FactTable

/-- The table of the members of an object. -/
def ofFields (fields : List (String × Value)) : FactTable :=
  Keyed.ofList (fields.map fun f => (f.1, Fact.of f.2))

/-- The table of a supplied value: an object gives its members, and a value that is not
given no facts at all.  Any other value has no members. -/
def ofValue? : Value → Option FactTable
  | .object fields => some (ofFields fields)
  | v => if v.isGiven then none else some Keyed.empty

/-- The fact under a token. -/
def lookup (t : FactTable) (token : String) : Fact := (t.get? token).getD Fact.absent

/-- The fact under a token that has to be in the table. -/
def fetch (t : FactTable) (token : String) : Except Failure Fact :=
  match t.get? token with
  | some f => .ok f
  | none => .error (.unknownToken (Text.fold token))

/-- The tokens with the echoes of their facts, in order. -/
def echoes (t : FactTable) : List (String × Value) := t.toList.map fun p => (p.1, p.2.echo)

end FactTable

end Verdict
