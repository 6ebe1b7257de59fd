/-
# Visiting a document

A visit evaluates every condition of a tree, whatever the outcome of the others.  A group's
conditions come before its subgroups, and all of them from left to right.  Each condition
leaves a line, and each group, once it is done, a notice.

The path of a group is that of its parent followed by ` > ` and its display name; the path
above the top-level groups is `ROOT`.
-/

import Verdict.Evaluation.Label
import Verdict.Evaluation.Semantics
import Verdict.Evaluation.Traced

namespace Verdict

/-- The path above the top-level groups. -/
def rootPath : String := "ROOT"

/-- What stands between the names in a path. -/
def pathSeparator : String := " > "

/-- The path of a group below another path. -/
def pathBelow (parent name : String) : String := parent ++ pathSeparator ++ name

/-- What a visit knows: the facts, the labels and the position of the top-level group. -/
structure Scope where
  facts : FactTable
  labels : Labels
  index : Value

/-- The line that a condition leaves; its label has to be a text and its position an
integer. -/
def Condition.line? (s : Scope) (path : String) (c : Condition) : Option Line :=
  match s.labels.text? c.token, Line.index? s.index with
  | some label, some index =>
    some ⟨path, c.token, label, c.operator, c.value.toValue.echo, (s.facts.lookup c.token).echo,
      c.holds s.facts, index⟩
  | _, _ => none

/-- Visits a condition. -/
def Condition.visit (s : Scope) (path : String) (c : Condition) : Traced Bool :=
  match c.line? s path with
  | some l => (Traced.record l).andThen fun _ => .done l.passed
  | none => .fail .shape

/-- Visits conditions in order. -/
def Condition.visitAll (s : Scope) (path : String) : List Condition → Traced (List Bool)
  | [] => .done []
  | c :: r =>
    (c.visit s path).andThen fun b => (visitAll s path r).andThen fun bs => .done (b :: bs)

namespace Group

mutual

/-- Visits a group below a path. -/
def visit (s : Scope) (parent : String) : Group → Traced Bool
  | ⟨id, label, operator, conditions, groups⟩ =>
    let path := pathBelow parent (displayName ⟨id, label, operator, conditions, groups⟩)
    (Condition.visitAll s path conditions).andThen fun own =>
    (visitAll s path groups).andThen fun nested =>
      let result := operator.reduce (own ++ nested)
      (Traced.note (.groupEvaluated path operator result)).andThen fun _ => .done result

/-- Visits groups in order. -/
def visitAll (s : Scope) (parent : String) : List Group → Traced (List Bool)
  | [] => .done []
  | g :: r =>
    (visit s parent g).andThen fun b => (visitAll s parent r).andThen fun bs => .done (b :: bs)

end

/-- Visits top-level groups in order, the first of which stands at a given position. -/
def visitTop (facts : FactTable) (labels : Labels) (index : Nat) : List Group → Traced (List Bool)
  | [] => .done []
  | g :: r =>
    (g.visit ⟨facts, labels, .int index⟩ rootPath).andThen fun b =>
    (visitTop facts labels (index + 1) r).andThen fun bs => .done (b :: bs)

end Group

/-- Visits the groups of a document. -/
def Document.visit (d : Document) (facts : FactTable) (labels : Labels) : Traced (List Bool) :=
  Group.visitTop facts labels 0 d.groups

end Verdict
