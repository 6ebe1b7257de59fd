/-
# Labels

A catalogue of labels gives tokens a description.  Tokens are matched by their case folding,
and a token that the catalogue does not describe, or describes by nothing, describes itself.
-/

import Verdict.Fact.Keyed
import Verdict.Value.Lenient

namespace Verdict

/-- Tokens with their descriptions. -/
abbrev Labels := Keyed Value

namespace Labels

/-- The catalogue of a supplied value: an object gives its members, and a value that is not
given no labels at all.  Any other value has no members. -/
def ofValue? : Value → Option Labels
  | .object fields => some (Keyed.ofList fields)
  | v => if v.isGiven then none else some Keyed.empty

/-- A catalogue with the labels of a supplied value over its own. -/
def overlay? (labels : Labels) (added : Value) : Option Labels := (ofValue? added).map labels.merge

/-- The description of a token. -/
def describe (labels : Labels) (token : String) : Value :=
  match labels.get? token with
  | some v => if v.isGiven then v else .text token
  | none => .text token

/-- The description of a token as a text, if it can be read as one. -/
def text? (labels : Labels) (token : String) : Option String := (labels.describe token).asText?

end Labels
end Verdict
