/-
# Operators

A combinator reduces the results of a group's children; a comparison relates a fact to
a literal.  Both are written as words, in any letter case and with white space at their
ends.

| comparison | word | symbol |
| --- | --- | --- |
| equal | `equals` | `=` |
| not equal | `notequals` | `!=` |
| at least | `greaterorequal` | `>=` |
| at most | `lessorequal` | `<=` |
| more | `greaterthan` | `>` |
| less | `lessthan` | `<` |

A text that names no combinator means `AND`; a text that names no comparison names none.
-/

import Verdict.Fact.Basic

namespace Verdict

open Text

/-- How the results of a group's children combine. -/
inductive Combinator where
  | all
  | any
deriving DecidableEq, Repr

namespace Combinator

/-- The word for a combinator. -/
def word : Combinator → String
  | .all => "AND"
  | .any => "OR"

/-- The combinator that a text names. -/
def ofText (s : String) : Combinator :=
  if upper (trim s.toList) = ['O', 'R'] then .any else .all

/-- The combinator that a supplied value names: only a text can name `OR`. -/
def ofValue : Value → Combinator
  | .text s => ofText s
  | _ => .all

/-- Whether all, or any, of a list of results hold. -/
def reduce : Combinator → List Bool → Bool
  | .all, results => results.all id
  | .any, results => results.any id

end Combinator

/-- How a fact is compared with a literal. -/
inductive Comparison where
  | equals
  | notEquals
  | greaterOrEqual
  | lessOrEqual
  | greaterThan
  | lessThan
deriving DecidableEq, Repr

namespace Comparison

/-- All comparisons. -/
def values : List Comparison :=
  [.equals, .notEquals, .greaterOrEqual, .lessOrEqual, .greaterThan, .lessThan]

/-- The word for a comparison. -/
def word : Comparison → String
  | .equals => "equals"
  | .notEquals => "notequals"
  | .greaterOrEqual => "greaterorequal"
  | .lessOrEqual => "lessorequal"
  | .greaterThan => "greaterthan"
  | .lessThan => "lessthan"

/-- The symbol for a comparison. -/
def symbol : Comparison → String
  | .equals => "="
  | .notEquals => "!="
  | .greaterOrEqual => ">="
  | .lessOrEqual => "<="
  | .greaterThan => ">"
  | .lessThan => "<"

/-- The comparison that a text names, by its word or its symbol. -/
def ofText? (s : String) : Option Comparison :=
  let name := String.ofList (lower (trim s.toList))
  values.find? fun c => c.word == name || c.symbol == name

/-- The comparison that a supplied value names: only a text can. -/
def ofValue? : Value → Option Comparison
  | .text s => ofText? s
  | _ => none

/-- Whether an ordering comparison accepts an order of its two sides. -/
def accepts : Comparison → Ordering → Bool
  | .equals, o => o == .eq
  | .notEquals, o => o != .eq
  | .greaterOrEqual, o => o != .lt
  | .lessOrEqual, o => o != .gt
  | .greaterThan, o => o == .gt
  | .lessThan, o => o == .lt

/-- Whether a comparison holds between a fact's content and a literal's.  Equality is that
of contents; the orderings compare number readings, and fail where one is missing. -/
def holds (c : Comparison) (actual expected : Content) : Bool :=
  match c with
  | .equals => actual.equal expected
  | .notEquals => !actual.equal expected
  | c =>
    match actual.number?, expected.number? with
    | some x, some y => c.accepts (x.order y)
    | _, _ => false

example : values.map (fun c => ofText? c.word) = values.map some := by decide +kernel
example : values.map (fun c => ofText? c.symbol) = values.map some := by decide +kernel

end Comparison

end Verdict
