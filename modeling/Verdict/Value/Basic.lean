/-
# Supplied values

Facts, literals and rule documents arrive as plain data: the scalars, lists and
objects of a JSON text, and beside them exact decimals, byte strings and values of
other types, which no rule can use.  The members of an object are kept in order and
have one name each.
-/

import Verdict.Binary64.Basic

namespace Verdict

/-- A value as it was supplied. -/
inductive Value where
  | null
  | bool (b : Bool)
  | int (n : Int)
  | float (x : Binary64)
  | decimal (d : ExtendedDecimal)
  | text (s : String)
  | bytes (bs : List UInt8)
  | list (items : List Value)
  | object (fields : List (String × Value))
  | other (typeName : String)

namespace Value

instance : Inhabited Value := ⟨.null⟩

/-- The member of an object with a given name. -/
def lookup? (name : String) : List (String × Value) → Option Value
  | [] => none
  | (k, v) :: r => if k = name then some v else lookup? name r

/-- Puts a member into an object: an earlier one of the same name gives up its value,
and keeps its place. -/
def putField (name : String) (value : Value) : List (String × Value) → List (String × Value)
  | [] => [(name, value)]
  | (k, v) :: r => if k = name then (k, value) :: r else (k, v) :: putField name value r

/-- The member of a value with a given name: only objects have any. -/
def field? (name : String) : Value → Option Value
  | .object fields => lookup? name fields
  | _ => none

/-- The name of a value's type. -/
def typeName : Value → String
  | .null => "NoneType"
  | .bool _ => "bool"
  | .int _ => "int"
  | .float _ => "float"
  | .decimal _ => "Decimal"
  | .text _ => "str"
  | .bytes _ => "bytes"
  | .list _ => "list"
  | .object _ => "dict"
  | .other name => name

/-- Whether a value counts as given: null, false, the zeros and everything empty do
not. -/
def isGiven : Value → Bool
  | .null => false
  | .bool b => b
  | .int n => n != 0
  | .float x => !x.isZero
  | .decimal (.finite d) => !d.isZero
  | .decimal _ => true
  | .text s => !s.isEmpty
  | .bytes bs => !bs.isEmpty
  | .list items => !items.isEmpty
  | .object fields => !fields.isEmpty
  | .other _ => true

mutual

/-- How many lists and objects are nested in a value. -/
def nesting : Value → Nat
  | .list items => nestings items + 1
  | .object fields => fieldNestings fields + 1
  | _ => 0

/-- The greatest nesting in values. -/
def nestings : List Value → Nat
  | [] => 0
  | v :: r => max v.nesting (nestings r)

/-- The greatest nesting in the values of members. -/
def fieldNestings : List (String × Value) → Nat
  | [] => 0
  | (_, v) :: r => max v.nesting (fieldNestings r)

end

/-- A member just put in is found, and no other name is affected. -/
theorem lookup?_putField (n m : String) (v : Value) (fields : List (String × Value)) :
    lookup? m (putField n v fields) = if n = m then some v else lookup? m fields := by
  induction fields with
  | nil => simp only [putField, lookup?]
  | cons f r ih =>
    obtain ⟨k, w⟩ := f
    unfold putField
    split
    · next h => subst h; unfold lookup?; split <;> simp_all
    · next h =>
      unfold lookup?
      split
      · next hk => subst hk; simp [Ne.symm h]
      · simpa using ih

end Value
end Verdict
