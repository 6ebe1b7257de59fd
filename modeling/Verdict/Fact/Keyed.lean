/-
# Tables keyed by case folding

A keyed table pairs names with values, one entry for each case folding of a name.  A
later entry with the same folding takes over the spelling and the value, and stays in
the place of the first.

| operation | what it gives |
| --- | --- |
| `put n v` | the table with `v` under the name `n` |
| `find? n` | the value under the folding of `n` |
| `names` | the current spellings, in order of first insertion |
-/

import Verdict.Text.Folding

namespace Verdict

/-- One entry of a keyed table: the folding of its name, the name and the value. -/
structure Entry (α : Type) where
  key : String
  name : String
  value : α

/-- Names with values, matched by the case folding of the name. -/
structure Keyed (α : Type) where
  entries : List (Entry α)

namespace Keyed

variable {α : Type}

/-- The table without entries. -/
def empty : Keyed α := ⟨[]⟩

/-- The entry with a given folding. -/
def entry? (key : String) : List (Entry α) → Option (Entry α)
  | [] => none
  | e :: r => if e.key = key then some e else entry? key r

/-- Puts an entry in the place of the one with its folding, or at the end. -/
def putEntry (new : Entry α) : List (Entry α) → List (Entry α)
  | [] => [new]
  | e :: r => if e.key = new.key then new :: r else e :: putEntry new r

/-- The table with `value` under `name`. -/
def put (t : Keyed α) (name : String) (value : α) : Keyed α :=
  ⟨putEntry ⟨Text.fold name, name, value⟩ t.entries⟩

/-- The table with every pair of a list put into it, in order. -/
def putAll (t : Keyed α) (pairs : List (String × α)) : Keyed α :=
  pairs.foldl (fun t p => t.put p.1 p.2) t

/-- The table of a list of pairs. -/
def ofList (pairs : List (String × α)) : Keyed α := empty.putAll pairs

/-- The entry under the folding of a name. -/
def find? (t : Keyed α) (name : String) : Option (Entry α) := entry? (Text.fold name) t.entries

/-- The value under the folding of a name. -/
def get? (t : Keyed α) (name : String) : Option α := (t.find? name).map (·.value)

/-- Whether a name's folding has an entry. -/
def contains (t : Keyed α) (name : String) : Bool := (t.find? name).isSome

/-- The number of entries. -/
def size (t : Keyed α) : Nat := t.entries.length

/-- The names in order. -/
def names (t : Keyed α) : List String := t.entries.map (·.name)

/-- The names with their values, in order. -/
def toList (t : Keyed α) : List (String × α) := t.entries.map fun e => (e.name, e.value)

/-- The entries of one table put over those of another. -/
def merge (t u : Keyed α) : Keyed α := ⟨u.entries.foldl (fun es e => putEntry e es) t.entries⟩

/-- An entry just put in is found under its folding, and no other folding is affected. -/
theorem entry?_putEntry (key : String) (new : Entry α) (es : List (Entry α)) :
    entry? key (putEntry new es) = if new.key = key then some new else entry? key es := by
  induction es with
  | nil => simp only [putEntry, entry?]
  | cons e r ih =>
    unfold putEntry
    split
    · next h => unfold entry?; split <;> simp_all
    · next h =>
      unfold entry?
      split
      · next hk => subst hk; simp [Ne.symm h]
      · simpa using ih

/-- What a name finds after one more pair is put into the table. -/
theorem find?_put (t : Keyed α) (name m : String) (value : α) :
    (t.put name value).find? m =
      if Text.fold name = Text.fold m then some ⟨Text.fold name, name, value⟩ else t.find? m :=
  entry?_putEntry _ _ _

end Keyed

end Verdict
