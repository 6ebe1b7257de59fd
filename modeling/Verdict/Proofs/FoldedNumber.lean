/-
# Numbers in folded texts

Letter case plays no part in the number that a text stands for: each step of reading a numeral takes
from the folding of a text what it takes from the text, and leaves the folding of what it leaves.
So a text and its folding stand for the same number, or both for none (`Decimal.ofText?_fold`).
-/

import Verdict.Decimal.Numeral
import Verdict.Proofs.FoldedText

namespace Verdict

open Text

namespace Text

theorem foldChars_cons (c : Char) (r : List Char) : foldChars (c :: r) = foldChar c ++ foldChars r :=
  List.flatMap_cons

/-- No character folds to nothing. -/
theorem foldChars_eq_nil_iff {cs : List Char} : foldChars cs = [] ↔ cs = [] := by
  cases cs with
  | nil => simp [foldChars]
  | cons c r =>
      have hne : foldChar c ≠ [] := by
        rcases foldChar_number c with h | ⟨-, h, -⟩
        · rw [h]
          exact List.cons_ne_nil _ _
        · exact h
      simp [foldChars_cons, hne]

/-- A character of numbers at the front of a folded text is a small letter of the one before. -/
theorem exists_of_foldChars_eq_cons {cs more : List Char} {x : Char}
    (h : foldChars cs = x :: more) (hx : CodeIn numberRuns x.toNat) :
    ∃ c r, cs = c :: r ∧ lowerChar c = x ∧ foldChars r = more := by
  cases cs with
  | nil => cases h
  | cons c r =>
      rw [foldChars_cons] at h
      rcases foldChar_number c with hf | ⟨-, hne, hf⟩
      · rw [hf, List.singleton_append] at h
        obtain ⟨hc, hr⟩ := List.cons.inj h
        exact ⟨c, r, rfl, hc, hr⟩
      · obtain ⟨y, ys, hy⟩ := List.exists_cons_of_ne_nil hne
        rw [hy, List.cons_append] at h
        obtain ⟨rfl, -⟩ := List.cons.inj h
        exact absurd hx (hf y (hy ▸ List.mem_cons_self))

/-- A character of numbers folds to its small letter. -/
theorem foldChars_cons_of_codeIn {c : Char} (h : CodeIn numberRuns c.toNat) (r : List Char) :
    foldChars (c :: r) = lowerChar c :: foldChars r := by
  rw [foldChars_cons]
  rcases foldChar_number c with hf | ⟨hn, -⟩
  · rw [hf, List.singleton_append]
  · exact absurd h hn

theorem codeIn_of_digit? {c : Char} {d : Nat} (h : digit? c = some d) :
    CodeIn numberRuns c.toNat := by
  unfold digit? at h
  split at h
  · split at h
    · next hd =>
      simp only [Bool.and_eq_true, decide_eq_true_eq] at hd
      refine ⟨(0x30, 0x39), by decide, hd⟩
    · cases h
  · obtain ⟨z, hz, -⟩ := Option.map_eq_some_iff.mp h
    have hin := List.find?_some hz
    have hmem := List.mem_of_find?_eq_some hz
    simp only [Bool.and_eq_true, decide_eq_true_eq] at hin
    refine ⟨(z, z + 9), ?_, hin.1, by dsimp only; omega⟩
    simp only [numberRuns, List.mem_cons, List.mem_map]
    exact Or.inr (Or.inr (Or.inr ⟨z, hmem, rfl⟩))

/-- Letters are no digits, small or not. -/
theorem digit?_lowerChar (c : Char) : digit? (lowerChar c) = digit? c := by
  by_cases hc : c.toNat < 128
  · refine forall_ascii c hc ?_
    decide +kernel
  · rw [lowerChar_of_not_ascii hc]

/-- What is no small letter is the small letter of itself alone. -/
theorem eq_of_lowerChar_eq {c x : Char} (h : lowerChar c = x) (hx : x.toNat < 97) : c = x := by
  have hsmall : lowerChar c = c ∨ 97 ≤ (lowerChar c).toNat := by
    by_cases hc : c.toNat < 128
    · refine forall_ascii c hc ?_
      decide +kernel
    · exact Or.inl (lowerChar_of_not_ascii hc)
  rw [h] at hsmall
  rcases hsmall with heq | hle
  · exact heq.symm
  · omega

/-- A character of numbers that is no letter comes from itself alone. -/
theorem exists_of_foldChars_eq_cons_sign {cs more : List Char} {x : Char}
    (h : foldChars cs = x :: more) (hx : CodeIn numberRuns x.toNat) (hsmall : x.toNat < 97) :
    ∃ r, cs = x :: r ∧ foldChars r = more := by
  obtain ⟨c, r, rfl, hc, hr⟩ := exists_of_foldChars_eq_cons h hx
  exact ⟨r, by rw [eq_of_lowerChar_eq hc hsmall], hr⟩

end Text

namespace Numeral

theorem takeSign_foldChars (cs : List Char) :
    takeSign (foldChars cs) = ((takeSign cs).1, foldChars (takeSign cs).2) := by
  fun_cases takeSign cs with
  | case1 r =>
      rw [foldChars_cons_of_codeIn (by decide)]
      rfl
  | case2 r =>
      rw [foldChars_cons_of_codeIn (by decide)]
      rfl
  | case3 cs hminus hplus =>
      unfold takeSign
      split
      · next r h =>
        obtain ⟨r, rfl, -⟩ := exists_of_foldChars_eq_cons_sign h (by decide) (by decide)
        exact absurd rfl (hminus r)
      · next r h =>
        obtain ⟨r, rfl, -⟩ := exists_of_foldChars_eq_cons_sign h (by decide) (by decide)
        exact absurd rfl (hplus r)
      · rfl

theorem takeDigits_foldChars (cs : List Char) :
    takeDigits (foldChars cs) = ((takeDigits cs).1, foldChars (takeDigits cs).2) := by
  induction cs with
  | nil => rfl
  | cons c r ih =>
      cases hc : digit? c with
      | some d =>
          rw [foldChars_cons_of_codeIn (codeIn_of_digit? hc)]
          simp only [takeDigits, digit?_lowerChar, hc, ih]
          rfl
      | none =>
          have hstop : takeDigits (c :: r) = ([], c :: r) := by simp only [takeDigits, hc]
          rw [hstop]
          cases hf : foldChars (c :: r) with
          | nil => rfl
          | cons x more =>
              cases hx : digit? x with
              | none => simp only [takeDigits, hx]
              | some d =>
                  obtain ⟨_, _, heq, rfl, -⟩ :=
                    exists_of_foldChars_eq_cons hf (codeIn_of_digit? hx)
                  obtain ⟨rfl, -⟩ := List.cons.inj heq
                  rw [digit?_lowerChar, hc] at hx
                  cases hx

/-- Whether a text begins with a comma and three digits. -/
def HasGroup (cs : List Char) : Prop :=
  ∃ a b c r, cs = ',' :: a :: b :: c :: r ∧ isDigit a = true ∧ isDigit b = true ∧ isDigit c = true

theorem takeGroups_of_not_hasGroup {cs : List Char} (h : ¬ HasGroup cs) :
    takeGroups cs = ([], cs) := by
  fun_cases takeGroups cs with
  | case1 a b c r x y z hz hy hx =>
      refine absurd ⟨a, b, c, r, rfl, ?_, ?_, ?_⟩ h <;> simp only [isDigit, hx, hy, hz] <;> rfl
  | case2 => rfl
  | case3 => rfl

theorem hasGroup_of_foldChars {cs : List Char} (h : HasGroup (foldChars cs)) : HasGroup cs := by
  obtain ⟨a, b, c, r, h, ha, hb, hc⟩ := h
  have inRuns {x : Char} (hx : isDigit x = true) : CodeIn numberRuns x.toNat := by
    obtain ⟨d, hd⟩ := Option.isSome_iff_exists.mp hx
    exact codeIn_of_digit? hd
  obtain ⟨_, rfl, h₁⟩ := exists_of_foldChars_eq_cons_sign h (by decide) (by decide)
  obtain ⟨a, _, rfl, rfl, h₂⟩ := exists_of_foldChars_eq_cons h₁ (inRuns ha)
  obtain ⟨b, _, rfl, rfl, h₃⟩ := exists_of_foldChars_eq_cons h₂ (inRuns hb)
  obtain ⟨c, _, rfl, rfl, -⟩ := exists_of_foldChars_eq_cons h₃ (inRuns hc)
  rw [isDigit, digit?_lowerChar] at ha hb hc
  exact ⟨a, b, c, _, rfl, ha, hb, hc⟩

theorem takeGroups_foldChars (cs : List Char) :
    takeGroups (foldChars cs) = ((takeGroups cs).1, foldChars (takeGroups cs).2) := by
  fun_induction takeGroups cs with
  | case1 a b c r x y z hz hy hx ih =>
      rw [foldChars_cons_of_codeIn (by decide), foldChars_cons_of_codeIn (codeIn_of_digit? hx),
        foldChars_cons_of_codeIn (codeIn_of_digit? hy),
        foldChars_cons_of_codeIn (codeIn_of_digit? hz)]
      change takeGroups (',' :: _) = _
      simp only [takeGroups, digit?_lowerChar, hx, hy, hz, ih]
      rfl
  | case2 a b c r hnone =>
      apply takeGroups_of_not_hasGroup
      intro h
      obtain ⟨_, _, _, _, heq, ha, hb, hc⟩ := hasGroup_of_foldChars h
      simp only [List.cons.injEq, true_and] at heq
      obtain ⟨rfl, rfl, rfl, rfl⟩ := heq
      obtain ⟨x, hx⟩ := Option.isSome_iff_exists.mp ha
      obtain ⟨y, hy⟩ := Option.isSome_iff_exists.mp hb
      obtain ⟨z, hz⟩ := Option.isSome_iff_exists.mp hc
      exact hnone x y z hx hy hz
  | case3 cs hnone =>
      apply takeGroups_of_not_hasGroup
      intro h
      obtain ⟨a, b, c, r, rfl, -⟩ := hasGroup_of_foldChars h
      exact hnone a b c r rfl

theorem takeWhole_foldChars (cs : List Char) :
    takeWhole (foldChars cs) = ((takeWhole cs).1, foldChars (takeWhole cs).2) := by
  simp only [takeWhole, takeDigits_foldChars]
  split
  · rw [takeGroups_foldChars]
  · rfl

theorem takeFraction_foldChars (cs : List Char) :
    takeFraction (foldChars cs) = ((takeFraction cs).1, foldChars (takeFraction cs).2) := by
  fun_cases takeFraction cs with
  | case1 r =>
      rw [foldChars_cons_of_codeIn (by decide)]
      change takeFraction ('.' :: _) = _
      simp only [takeFraction, takeDigits_foldChars]
      rfl
  | case2 cs hpoint =>
      unfold takeFraction
      split
      · next r h =>
        obtain ⟨r, rfl, -⟩ := exists_of_foldChars_eq_cons_sign h (by decide) (by decide)
        exact absurd rfl (hpoint r)
      · rfl

theorem mark_of_lowerChar {c : Char}
    (h : (lowerChar c == 'e' || lowerChar c == 'E') = true) : (c == 'e' || c == 'E') = true := by
  by_cases hc : c.toNat < 128
  · revert h
    refine forall_ascii c hc ?_
    decide +kernel
  · rwa [lowerChar_of_not_ascii hc] at h

theorem exponent?_foldChars (cs : List Char) : exponent? (foldChars cs) = exponent? cs := by
  cases cs with
  | nil => rfl
  | cons c r =>
      by_cases hc : (c == 'e' || c == 'E') = true
      · have hin : CodeIn numberRuns c.toNat ∧ lowerChar c = 'e' := by
          rcases Bool.or_eq_true_iff.mp hc with h | h <;> rw [eq_of_beq h] <;> decide
        rw [foldChars_cons_of_codeIn hin.1, hin.2]
        simp only [exponent?, hc, takeSign_foldChars, takeDigits_foldChars]
        obtain ⟨digits, rest⟩ := takeDigits (takeSign r).2
        cases digits with
        | nil => rfl
        | cons d ds =>
            cases rest with
            | nil => rfl
            | cons x more =>
                cases hf : foldChars (x :: more) with
                | nil => exact absurd (foldChars_eq_nil_iff.mp hf) (List.cons_ne_nil _ _)
                | cons y ys => rfl
      · cases hf : foldChars (c :: r) with
        | nil => exact absurd (foldChars_eq_nil_iff.mp hf) (List.cons_ne_nil _ _)
        | cons x more =>
            by_cases hx : (x == 'e' || x == 'E') = true
            · have hin : CodeIn numberRuns x.toNat := by
                rcases Bool.or_eq_true_iff.mp hx with h | h <;> rw [eq_of_beq h] <;> decide
              obtain ⟨_, _, heq, rfl, -⟩ := exists_of_foldChars_eq_cons hf hin
              obtain ⟨rfl, -⟩ := List.cons.inj heq
              exact absurd (mark_of_lowerChar hx) hc
            · rw [exponent?, exponent?, if_neg hx, if_neg hc]

theorem ofChars?_foldChars (cs : List Char) : ofChars? (foldChars cs) = ofChars? cs := by
  simp only [ofChars?, takeSign_foldChars, takeWhole_foldChars, takeFraction_foldChars,
    exponent?_foldChars]

end Numeral

/-- **A text and its folding stand for the same number.** -/
theorem Decimal.ofText?_fold (s : String) : ofText? (fold s) = ofText? s := by
  simp only [ofText?, fold, String.toList_ofList, trim_foldChars, Numeral.ofChars?_foldChars]

/-- Texts of one folding stand for the same number, or for none. -/
theorem Decimal.ofText?_eq_of_fold_eq {s t : String} (h : fold s = fold t) : ofText? s = ofText? t := by
  rw [← ofText?_fold, h, ofText?_fold]

end Verdict
