/-
# Rule documents

A rule document is a tree: the document combines groups, a group combines its conditions
and then its subgroups, and a condition compares the fact under its token with a
literal.  The operator of a condition is kept as it was written.
-/

import Verdict.Criteria.Operator

namespace Verdict

/-- The value that a condition expects. -/
inductive Literal where
  | null
  | boolean (b : Bool)
  | integer (n : Int)
  | decimal (d : Decimal)
  | text (s : String)
deriving DecidableEq, Repr

/-- A literal as a value. -/
def Literal.toValue : Literal → Value
  | .null => .null
  | .boolean b => .bool b
  | .integer n => .int n
  | .decimal d => .decimal (.finite d)
  | .text s => .text s

/-- A comparison of the fact under a token with a literal. -/
structure Condition where
  id : String
  token : String
  operator : String
  value : Literal
deriving DecidableEq, Repr

/-- The comparison that a condition's operator names. -/
def Condition.comparison? (c : Condition) : Option Comparison := Comparison.ofText? c.operator

/-- A named combination of conditions and subgroups. -/
structure Group where
  id : String
  label : String
  operator : Combinator
  conditions : List Condition
  groups : List Group
deriving Repr

/-- The root of a rule tree. -/
structure Document where
  operator : Combinator
  groups : List Group
deriving Repr

namespace Group

/-- The name under which a group is shown. -/
def displayName (g : Group) : String := if g.label.isEmpty then g.id else g.label

mutual

/-- How many groups the longest chain from a group down holds. -/
def depth : Group → Nat
  | ⟨_, _, _, _, groups⟩ => depths groups + 1

/-- The greatest depth in a list of groups. -/
def depths : List Group → Nat
  | [] => 0
  | g :: r => max g.depth (depths r)

end

mutual

/-- The literals of a group's conditions, then those of its subgroups. -/
def literals : Group → List Literal
  | ⟨_, _, _, conditions, groups⟩ => conditions.map (·.value) ++ allLiterals groups

/-- The literals of a list of groups. -/
def allLiterals : List Group → List Literal
  | [] => []
  | g :: r => g.literals ++ allLiterals r

end

end Group

namespace Document

/-- The document without groups, whose verdict is true. -/
def empty : Document := ⟨.all, []⟩

/-- Whether a document has no groups. -/
def isEmpty (d : Document) : Bool := d.groups.isEmpty

/-- The literals of a document in depth-first order. -/
def literals (d : Document) : List Literal := Group.allLiterals d.groups

end Document

end Verdict
