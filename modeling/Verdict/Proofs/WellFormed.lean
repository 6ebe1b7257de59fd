/-
# Well-formed rules

Rules that are already decoded are well-formed when every member that a document, a group or a
condition reads has a value that it takes:

| part | member | takes |
| --- | --- | --- |
| document | `groups` | a list of groups |
| group | `id`, `label` | null, a text, a truth value or a number |
| | `conditions` | null, or a list of conditions |
| | `groups`, or `subgroups` where that is absent | null, or a list of groups |
| condition | `id`, `token`, `operator` | null, a text, a truth value or a number |
| | `value` | null, a text, a truth value, an integer, a binary64 number or a finite decimal |

and no chain holds more than `maxDepth` groups.  An absent member counts as null, and other members
are of no account.  `Value.toDocument` is what such rules describe, part by part.
-/

import Verdict.Criteria.Decode

namespace Verdict
namespace Value

/-- Values with no byte string in them. -/
inductive BytesFree : Value → Prop
  | null : BytesFree .null
  | bool (b : Bool) : BytesFree (.bool b)
  | int (n : Int) : BytesFree (.int n)
  | float (x : Binary64) : BytesFree (.float x)
  | decimal (d : ExtendedDecimal) : BytesFree (.decimal d)
  | text (s : String) : BytesFree (.text s)
  | other (typeName : String) : BytesFree (.other typeName)
  | list {items : List Value} (h : ∀ v ∈ items, BytesFree v) : BytesFree (.list items)
  | object {fields : List (String × Value)} (h : ∀ f ∈ fields, BytesFree f.2) :
      BytesFree (.object fields)

attribute [simp] BytesFree.null BytesFree.bool BytesFree.int BytesFree.float BytesFree.decimal
  BytesFree.text BytesFree.other

@[simp] theorem bytesFree_list {items : List Value} :
    BytesFree (.list items) ↔ ∀ v ∈ items, v.BytesFree :=
  ⟨fun | .list h => h, .list⟩

@[simp] theorem bytesFree_object {fields : List (String × Value)} :
    BytesFree (.object fields) ↔ ∀ f ∈ fields, f.2.BytesFree :=
  ⟨fun | .object h => h, .object⟩

/-- The member of an object with a given name, null where it is absent. -/
def member (name : String) (fields : List (String × Value)) : Value :=
  (lookup? name fields).getD .null

/-- The member that lists the groups within a group: `groups`, or `subgroups` where it has none. -/
def subgroups (fields : List (String × Value)) : Value :=
  (lookup? "groups" fields).getD (member "subgroups" fields)

/-! ### What is well-formed -/

/-- Whether a value is null, a text, a truth value or a number; integers may have a greatest number
of digits. -/
def FillsText (maxDigits : Option Nat) : Value → Prop
  | .null | .text _ | .bool _ | .float _ | .decimal _ => True
  | .int n => ∀ k ∈ maxDigits, n.natAbs < 10 ^ k
  | _ => False

/-- Whether a value is null, a text, a truth value, an integer, a binary64 number or a finite
decimal. -/
def IsLiteral : Value → Prop
  | .null | .text _ | .bool _ | .int _ | .float _ | .decimal (.finite _) => True
  | _ => False

/-- Whether a value is null or a list of values with a property. -/
def IsListOf (p : Value → Prop) : Value → Prop
  | .null => True
  | .list items => ∀ v ∈ items, p v
  | _ => False

/-- Whether a value is a well-formed condition. -/
def IsCondition (maxDigits : Option Nat) : Value → Prop
  | .object fields =>
    FillsText maxDigits (member "id" fields) ∧ FillsText maxDigits (member "token" fields) ∧
      FillsText maxDigits (member "operator" fields) ∧ IsLiteral (member "value" fields)
  | _ => False

/-- Whether a value is a well-formed group in which no chain holds more than so many groups. -/
def IsGroup (maxDigits : Option Nat) : Nat → Value → Prop
  | depth + 1, .object fields =>
    FillsText maxDigits (member "id" fields) ∧ FillsText maxDigits (member "label" fields) ∧
      (member "conditions" fields).IsListOf (IsCondition maxDigits) ∧
      (subgroups fields).IsListOf (IsGroup maxDigits depth)
  | _, _ => False

/-- Whether a value is a well-formed document. -/
def IsDocument (maxDigits : Option Nat) : Value → Prop
  | .object fields =>
    ∃ items, lookup? "groups" fields = some (.list items) ∧
      ∀ v ∈ items, IsGroup maxDigits maxDepth v
  | _ => False

/-! ### What it describes -/

/-- The text of a value in a text field. -/
def textOf : Value → String
  | .bool b => boolWord b
  | .int n => integerText n
  | .float x => x.text
  | .decimal d => d.text
  | .text s => s
  | _ => ""

/-- The items of a list; any other value has none. -/
def items : Value → List Value
  | .list items => items
  | _ => []

/-- The combinator of a value: `OR` for the text `or`, in any letter case and with white space at
its ends, and `AND` for anything else. -/
def toCombinator : Value → Combinator
  | .text s => if (Text.trim s.toList).map Char.toLower = ['o', 'r'] then .any else .all
  | _ => .all

/-- The literal of a value: a binary64 number stands for its shortest decimal, or for its text
where it is not finite. -/
def toLiteral : Value → Literal
  | .bool b => .boolean b
  | .int n => .integer n
  | .float x => if x.isFinite then .decimal x.toDecimal else .text x.text
  | .decimal (.finite d) => .decimal d
  | .text s => .text s
  | _ => .null

/-- The condition that a value describes. -/
def toCondition : Value → Condition
  | .object fields =>
    ⟨(member "id" fields).textOf, (member "token" fields).textOf,
      (member "operator" fields).textOf, (member "value" fields).toLiteral⟩
  | _ => ⟨"", "", "", .null⟩

theorem sizeOf_lt_of_lookup {name : String} {v : Value} {fields : List (String × Value)}
    (h : lookup? name fields = some v) : sizeOf v < sizeOf fields := by
  induction fields with
  | nil => cases h
  | cons f r ih =>
      obtain ⟨k, w⟩ := f
      rw [List.cons.sizeOf_spec, Prod.mk.sizeOf_spec]
      unfold lookup? at h
      split at h
      · obtain rfl := Option.some.inj h
        omega
      · have := ih h
        omega

theorem sizeOf_member_le (name : String) (fields : List (String × Value)) :
    sizeOf (member name fields) ≤ sizeOf fields := by
  unfold member
  cases h : lookup? name fields with
  | none =>
      rw [Option.getD_none, null.sizeOf_spec]
      cases fields with
      | nil => exact Nat.le_refl 1
      | cons f r =>
          rw [List.cons.sizeOf_spec]
          omega
  | some v => exact Nat.le_of_lt (sizeOf_lt_of_lookup h)

theorem sizeOf_subgroups_le (fields : List (String × Value)) :
    sizeOf (subgroups fields) ≤ sizeOf fields := by
  unfold subgroups
  cases h : lookup? "groups" fields with
  | none => exact sizeOf_member_le "subgroups" fields
  | some v => exact Nat.le_of_lt (sizeOf_lt_of_lookup h)

theorem sizeOf_lt_of_mem_items {v w : Value} (h : w ∈ v.items) : sizeOf w < sizeOf v := by
  cases v with
  | list items =>
      change w ∈ items at h
      have := List.sizeOf_lt_of_mem h
      rw [list.sizeOf_spec]
      omega
  | _ => cases h

/-- The group that a value describes. -/
def toGroup : Value → Group
  | .object fields =>
    let id := (member "id" fields).textOf
    let label := (member "label" fields).textOf
    ⟨id, if Text.allBlank label then id else label, (member "operator" fields).toCombinator,
      (member "conditions" fields).items.map toCondition,
      (subgroups fields).items.attach.map fun v => v.1.toGroup⟩
  | _ => ⟨"", "", .all, [], []⟩
termination_by v => sizeOf v
decreasing_by
  have h₁ := sizeOf_lt_of_mem_items v.2
  have h₂ := sizeOf_subgroups_le fields
  rw [object.sizeOf_spec]
  omega

theorem toGroup_object (fields : List (String × Value)) :
    toGroup (.object fields) =
      ⟨(member "id" fields).textOf,
        if Text.allBlank (member "label" fields).textOf then (member "id" fields).textOf
          else (member "label" fields).textOf,
        (member "operator" fields).toCombinator,
        (member "conditions" fields).items.map toCondition,
        (subgroups fields).items.map toGroup⟩ := by
  rw [toGroup, List.attach_map_val]

/-- The document that a value describes. -/
def toDocument : Value → Document
  | .object fields =>
    ⟨(member "operator" fields).toCombinator, (member "groups" fields).items.map toGroup⟩
  | _ => .empty

end Value
end Verdict
