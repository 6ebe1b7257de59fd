/-
# What case folding leaves alone

Case folding makes a letter small or takes it apart, and touches nothing else: neither white space
nor the characters of numbers come out of another character, and of these only `E` changes.  The
tables are compared with runs of code points once (`Text.Apart`); whatever trims a text or reads a
number from it then does the same after folding (`Text.trim_foldChars`).
-/

import Verdict.Text.Blank
import Verdict.Text.Digit
import Verdict.Text.Folding
import Verdict.Text.Letters

namespace Verdict
namespace Text

/-- Whether a code point is in one of several runs. -/
def CodeIn (runs : List (Nat × Nat)) (n : Nat) : Prop := ∃ r ∈ runs, r.1 ≤ n ∧ n ≤ r.2

instance (runs : List (Nat × Nat)) (n : Nat) : Decidable (CodeIn runs n) :=
  inferInstanceAs (Decidable (∃ r ∈ runs, r.1 ≤ n ∧ n ≤ r.2))

/-- Whether the code points from `first` to `last` are in none of several runs. -/
def avoids (runs : List (Nat × Nat)) (first last : Nat) : Bool :=
  runs.all fun s => last.blt s.1 || s.2.blt first

theorem not_codeIn_of_avoids {runs : List (Nat × Nat)} {first last n : Nat}
    (h : avoids runs first last = true) (hfirst : first ≤ n) (hlast : n ≤ last) :
    ¬ CodeIn runs n := by
  rintro ⟨s, hs, h₁, h₂⟩
  have := List.all_eq_true.mp h s hs
  simp only [Bool.or_eq_true, Nat.blt_eq] at this
  omega

/-- The tables of case folding take no code point from some runs and bring none there.  Code point
zero is not in these, since it stands for the numbers that are no code point. -/
structure Apart (runs : List (Nat × Nat)) : Prop where
  zero : avoids runs 0 0 = true
  taken : (foldRuns.all fun r => avoids runs r.1 r.2.1) = true
  brought : (foldRuns.all fun r => avoids runs r.2.2.2 (r.2.2.2 + (r.2.1 - r.1))) = true
  parted : (foldExpansions.all fun e => !e.2.isEmpty && avoids runs e.1 e.1) = true
  parts : (foldExpansions.all fun e => e.2.all fun n => avoids runs n n) = true

/-- The folding of a character above the ASCII range comes from a table, or is the character. -/
theorem foldChar_cases {c : Char} (h : ¬ c.toNat < 128) :
    (∃ e ∈ foldExpansions, e.1 = c.toNat ∧ foldChar c = e.2.map Char.ofNat) ∨
      (∃ r ∈ foldRuns, r.1 ≤ c.toNat ∧ c.toNat ≤ r.2.1 ∧
        foldChar c = [Char.ofNat (r.2.2.2 + (c.toNat - r.1))]) ∨
      foldChar c = [c] := by
  unfold foldChar
  rw [if_neg h]
  split
  · next e he =>
    have hkey := List.find?_some he
    exact Or.inl ⟨e, List.mem_of_find?_eq_some he, eq_of_beq hkey, rfl⟩
  · split
    · next r hr =>
      have hin := List.find?_some hr
      simp only [Bool.and_eq_true, decide_eq_true_eq] at hin
      exact Or.inr (Or.inl ⟨r, List.mem_of_find?_eq_some hr, hin.1.1, hin.1.2, rfl⟩)
    · exact Or.inr (Or.inr rfl)

/-- The character of a number is the one of that code point, or the first of all. -/
theorem toNat_ofNat (n : Nat) : (Char.ofNat n).toNat = n ∨ (Char.ofNat n).toNat = 0 := by
  unfold Char.ofNat
  by_cases h : n.isValidChar
  · rw [dif_pos h]
    exact Or.inl rfl
  · rw [dif_neg h]
    exact Or.inr rfl

namespace Apart

variable {runs : List (Nat × Nat)} {c : Char}

theorem not_codeIn_ofNat (h : Apart runs) {n : Nat} (hn : ¬ CodeIn runs n) :
    ¬ CodeIn runs (Char.ofNat n).toNat := by
  rcases toNat_ofNat n with he | he
  · rwa [he]
  · rw [he]
    exact not_codeIn_of_avoids h.zero (Nat.le_refl _) (Nat.le_refl _)

/-- **A character above the ASCII range** folds to itself if it is in the runs, and to characters
that are not in them otherwise. -/
theorem foldChar (h : Apart runs) (hc : ¬ c.toNat < 128) :
    (CodeIn runs c.toNat ∧ Text.foldChar c = [c]) ∨
      (¬ CodeIn runs c.toNat ∧ Text.foldChar c ≠ [] ∧
        ∀ x ∈ Text.foldChar c, ¬ CodeIn runs x.toNat) := by
  rcases foldChar_cases hc with ⟨e, he, hkey, hf⟩ | ⟨r, hr, hfirst, hlast, hf⟩ | hf
  · have hparted := List.all_eq_true.mp h.parted e he
    have hparts := List.all_eq_true.mp (List.all_eq_true.mp h.parts e he)
    rw [Bool.and_eq_true] at hparted
    refine Or.inr ⟨?_, ?_, ?_⟩
    · exact not_codeIn_of_avoids hparted.2 (Nat.le_of_eq hkey) (Nat.le_of_eq hkey.symm)
    · rw [hf]
      simpa using hparted.1
    · intro x hx
      rw [hf] at hx
      obtain ⟨n, hn, rfl⟩ := List.mem_map.mp hx
      exact h.not_codeIn_ofNat
        (not_codeIn_of_avoids (hparts n hn) (Nat.le_refl _) (Nat.le_refl _))
  · have htaken := List.all_eq_true.mp h.taken r hr
    have hbrought := List.all_eq_true.mp h.brought r hr
    refine Or.inr ⟨not_codeIn_of_avoids htaken hfirst hlast, ?_, ?_⟩
    · rw [hf]
      exact List.cons_ne_nil _ _
    · intro x hx
      rw [hf] at hx
      obtain rfl := List.mem_singleton.mp hx
      exact h.not_codeIn_ofNat (not_codeIn_of_avoids hbrought (by omega) (by omega))
  · by_cases hin : CodeIn runs c.toNat
    · exact Or.inl ⟨hin, hf⟩
    · refine Or.inr ⟨hin, ?_, ?_⟩
      · rw [hf]
        exact List.cons_ne_nil _ _
      · intro x hx
        rw [hf] at hx
        obtain rfl := List.mem_singleton.mp hx
        exact hin

end Apart

/-- The folding of an ASCII character. -/
theorem foldChar_of_ascii {c : Char} (h : c.toNat < 128) : foldChar c = [lowerChar c] := by
  unfold foldChar lowerChar
  rw [if_pos h]
  split <;> simp_all

/-- The runs of white space. -/
def blankRuns : List (Nat × Nat) :=
  [(9, 13), (28, 32), (0x85, 0x85), (0xA0, 0xA0), (0x1680, 0x1680), (0x2000, 0x200A),
    (0x2028, 0x2029), (0x202F, 0x202F), (0x205F, 0x205F), (0x3000, 0x3000)]

/-- The runs of the characters of numbers: signs, comma and point, the marks of exponents, and the
decimal digits of all scripts. -/
def numberRuns : List (Nat × Nat) :=
  (43, 46) :: (69, 69) :: (101, 101) :: digitZeros.map fun z => (z, z + 9)

theorem apart_blankRuns : Apart blankRuns where
  zero := by decide
  taken := by decide +kernel
  brought := by decide +kernel
  parted := by decide +kernel
  parts := by decide +kernel

theorem apart_numberRuns : Apart numberRuns where
  zero := by decide +kernel
  taken := by decide +kernel
  brought := by decide +kernel
  parted := by decide +kernel
  parts := by decide +kernel

theorem isBlank_iff {c : Char} : isBlank c = true ↔ CodeIn blankRuns c.toNat := by
  simp only [isBlank, isSpace, CodeIn, blankRuns, List.mem_cons, List.not_mem_nil, or_false,
    exists_eq_or_imp, exists_eq_left, Bool.or_eq_true, Bool.and_eq_true, decide_eq_true_eq,
    beq_iff_eq]
  omega

/-- What holds of the first 128 characters holds of those below 128. -/
@[elab_as_elim]
theorem forall_ascii {motive : Char → Prop} (c : Char) (hc : c.toNat < 128)
    (h : ∀ n < 128, motive (Char.ofNat n)) : motive c := by
  simpa only [Char.ofNat_toNat] using h c.toNat hc

/-- White space folds to itself, and nothing else to white space. -/
theorem foldChar_blank (c : Char) :
    (isBlank c = true ∧ foldChar c = [c]) ∨
      (isBlank c = false ∧ foldChar c ≠ [] ∧ ∀ x ∈ foldChar c, isBlank x = false) := by
  by_cases hc : c.toNat < 128
  · have hall : (isBlank c = true ∧ foldChar c = [c]) ∨
        (isBlank c = false ∧ foldChar c ≠ [] ∧ (foldChar c).all (!isBlank ·) = true) := by
      refine forall_ascii c hc ?_
      decide +kernel
    simpa only [List.all_eq_true, Bool.not_eq_true'] using hall
  · simpa only [← isBlank_iff, Bool.not_eq_true] using apart_blankRuns.foldChar hc

section
variable {α : Type} {p : α → Bool} {f : α → List α}

/-- Replacing what fails a test by more that fails it does not change what is dropped. -/
theorem dropWhile_flatMap
    (h : ∀ a, (p a = true ∧ f a = [a]) ∨ (p a = false ∧ f a ≠ [] ∧ ∀ b ∈ f a, p b = false))
    (xs : List α) : (xs.flatMap f).dropWhile p = (xs.dropWhile p).flatMap f := by
  induction xs with
  | nil => rfl
  | cons a r ih =>
      rw [List.flatMap_cons]
      rcases h a with ⟨ha, hf⟩ | ⟨ha, hne, hf⟩
      · rw [hf, List.singleton_append, List.dropWhile_cons_of_pos ha,
          List.dropWhile_cons_of_pos ha, ih]
      · obtain ⟨b, bs, hb⟩ := List.exists_cons_of_ne_nil hne
        have hpb : ¬ p b = true := by
          rw [hf b (hb ▸ List.mem_cons_self)]
          exact Bool.false_ne_true
        rw [List.dropWhile_cons_of_neg (by simp [ha]), List.flatMap_cons, hb, List.cons_append,
          List.dropWhile_cons_of_neg hpb]

theorem strip_flatMap
    (h : ∀ a, (p a = true ∧ f a = [a]) ∨ (p a = false ∧ f a ≠ [] ∧ ∀ b ∈ f a, p b = false))
    (xs : List α) : strip p (xs.flatMap f) = (strip p xs).flatMap f := by
  have hreverse (a : α) : (p a = true ∧ (f a).reverse = [a]) ∨
      (p a = false ∧ (f a).reverse ≠ [] ∧ ∀ b ∈ (f a).reverse, p b = false) := by
    simpa [List.reverse_eq_cons_iff] using h a
  rw [strip, dropWhile_flatMap h, List.reverse_flatMap, Function.comp_def,
    dropWhile_flatMap hreverse, List.reverse_flatMap]
  simp only [Function.comp_def, List.reverse_reverse, strip]

end

/-- **Trimming a folded text** gives the folding of the trimmed text. -/
theorem trim_foldChars (cs : List Char) : trim (foldChars cs) = foldChars (trim cs) :=
  strip_flatMap foldChar_blank cs

/-- Above the ASCII range no character is a capital. -/
theorem lowerChar_of_not_ascii {c : Char} (h : ¬ c.toNat < 128) : lowerChar c = c := by
  unfold lowerChar
  rw [if_neg]
  simp only [Bool.and_eq_true, decide_eq_true_eq]
  omega

/-- A character of numbers folds to its small letter, any other to others. -/
theorem foldChar_number (c : Char) :
    foldChar c = [lowerChar c] ∨
      (¬ CodeIn numberRuns c.toNat ∧ foldChar c ≠ [] ∧
        ∀ x ∈ foldChar c, ¬ CodeIn numberRuns x.toNat) := by
  by_cases hc : c.toNat < 128
  · exact Or.inl (foldChar_of_ascii hc)
  · rw [lowerChar_of_not_ascii hc]
    exact (apart_numberRuns.foldChar hc).imp_left And.right

end Text
end Verdict
