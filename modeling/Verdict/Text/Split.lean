/-
# Texts in parts

A text splits at every occurrence of a separator, so it has one part more than separators,
and joining the parts gives the text again.
-/

namespace Verdict
namespace Text

/-- The parts of a text between separators. -/
def splitOn (sep : Char) : List Char → List (List Char)
  | [] => [[]]
  | c :: r =>
    if c == sep then [] :: splitOn sep r
    else
      match splitOn sep r with
      | part :: parts => (c :: part) :: parts
      | [] => [[c]]

/-- Parts with separators between them. -/
def joinWith (sep : Char) : List (List Char) → List Char
  | [] => []
  | [part] => part
  | part :: parts => part ++ sep :: joinWith sep parts

theorem splitOn_ne_nil (sep : Char) (cs : List Char) : splitOn sep cs ≠ [] := by
  cases cs with
  | nil => simp [splitOn]
  | cons c r =>
    unfold splitOn
    split
    · simp
    · split <;> simp

/-- Splitting loses nothing. -/
theorem joinWith_splitOn (sep : Char) (cs : List Char) : joinWith sep (splitOn sep cs) = cs := by
  induction cs with
  | nil => rfl
  | cons c r ih =>
    unfold splitOn
    split
    · next h =>
      obtain ⟨p, ps, hp⟩ := List.exists_cons_of_ne_nil (splitOn_ne_nil sep r)
      rw [hp] at ih ⊢
      simp [joinWith, ih, eq_of_beq h]
    · obtain ⟨p, ps, hp⟩ := List.exists_cons_of_ne_nil (splitOn_ne_nil sep r)
      rw [hp] at ih ⊢
      cases ps with
      | nil => simpa [joinWith] using ih
      | cons q qs => simpa [joinWith] using ih

/-- What stands before and after the last occurrence of a character. -/
def splitLast? (sep : Char) (cs : List Char) : Option (List Char × List Char) :=
  match cs.reverse.span (· != sep) with
  | (after, _ :: before) => some (before.reverse, after.reverse)
  | (_, []) => none

example : splitOn '/' "a//b".toList = ["a".toList, [], "b".toList] := by decide
example : splitLast? '.' "a.b.c".toList = some ("a.b".toList, ['c']) := by decide

end Text
end Verdict
