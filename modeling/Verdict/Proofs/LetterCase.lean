/-
# Letter case in words

Truth values, comparisons and combinators are named by words, in any letter case.  A text is compared with
a word in the small letters of the ASCII range, and not in its case folding.  The two differ for the
characters above the ASCII range that fold to letters of words:

| character | folds to |
| --- | --- |
| `ſ` (U+017F) | `s` |
| `ß` (U+00DF), `ẞ` (U+1E9E) | `ss` |
| `ﬅ` (U+FB05), `ﬆ` (U+FB06) | `st` |

A text without these names what its folding names, and a text with one of them names nothing
(`read_eq`).  So texts of one folding name the same thing, unless the folding names something and
just one of the two is spelt with such a character (`read_eq_read_iff`).
-/

import Mathlib.Data.Bool.AllAny
import Verdict.Criteria.Operator
import Verdict.Proofs.EchoedComparison

namespace Verdict

open Text

/-! ### Characters that fold to letters of words -/

namespace Text

/-- The long s, the sharp s and the ligatures of s and t. -/
def formsOfS : List Char := ['\u017f', '\u00df', '\u1e9e', '\ufb05', '\ufb06']

/-- Whether a text has a character that is written for an s and is none. -/
def HasFormOfS (s : String) : Prop := ∃ c ∈ s.toList, c ∈ formsOfS

instance (s : String) : Decidable (HasFormOfS s) :=
  List.decidableBEx (· ∈ formsOfS) s.toList

/-- The folding of a text, without the white space at its ends. -/
def foldedWord (s : String) : String := String.ofList (trim (fold s).toList)

theorem foldedWord_eq (s : String) : foldedWord s = String.ofList (foldChars (trim s.toList)) := by
  rw [foldedWord, fold, String.toList_ofList, trim_foldChars]

theorem foldedWord_eq_of_fold_eq {s t : String} (h : fold s = fold t) : foldedWord s = foldedWord t := by
  rw [foldedWord, h, foldedWord]

/-- What is no white space is not trimmed. -/
theorem mem_trim_iff {c : Char} {cs : List Char} (hc : isBlank c = false) : c ∈ trim cs ↔ c ∈ cs := by
  have hdrop (cs : List Char) : c ∈ cs.dropWhile isBlank ↔ c ∈ cs := by
    refine ⟨fun h => (List.dropWhile_suffix isBlank).subset h, fun h => ?_⟩
    rw [← List.takeWhile_append_dropWhile (p := isBlank) (l := cs), List.mem_append] at h
    rcases h with h | h
    · rw [List.all_eq_true.mp List.all_takeWhile c h] at hc
      cases hc
    · exact h
  rw [trim, strip, List.mem_reverse, hdrop, List.mem_reverse, hdrop]

/-- A form of an s is not trimmed. -/
theorem hasFormOfS_iff {s : String} : HasFormOfS s ↔ ∃ c ∈ trim s.toList, c ∈ formsOfS := by
  have hblank : ∀ c ∈ formsOfS, isBlank c = false := List.all_iff_forall_prop.mp (by decide)
  refine exists_congr fun c => ?_
  constructor
  · exact fun h => ⟨(mem_trim_iff (hblank c h.2)).mpr h.1, h.2⟩
  · exact fun h => ⟨(mem_trim_iff (hblank c h.2)).mp h.1, h.2⟩

end Text

/-- All words, with the symbols for comparisons, in small letters. -/
def words : List String :=
  Content.trueWords ++ Content.falseWords ++ Comparison.values.map Comparison.word ++
    Comparison.values.map Comparison.symbol ++ ["and", "or"]

theorem ascii_of_mem_words {w : String} (hw : w ∈ words) {x : Char} (hx : x ∈ w.toList) :
    x.toNat ≠ 0 ∧ x.toNat < 128 ∧ x ≠ 'k' := by
  have hall : ∀ w ∈ words, w.toList.all (fun x => x.toNat ≠ 0 ∧ x.toNat < 128 ∧ x ≠ 'k') = true := by
    decide +kernel
  exact List.all_iff_forall_prop.mp (hall w hw) x hx

/-- **Above the ASCII range, only the forms of an s** fold to a part of a word. -/
theorem mem_formsOfS_of_isInfix {c : Char} (hc : ¬ c.toNat < 128) {w : String} (hw : w ∈ words)
    (h : foldChar c <:+: w.toList) : c ∈ formsOfS := by
  have hparted : ∀ e ∈ foldExpansions, ∀ w ∈ words, e.2.map Char.ofNat <:+: w.toList →
      Char.ofNat e.1 ∈ formsOfS := by decide +kernel
  -- the Kelvin sign folds to a letter as well, but to one that no word has
  have hruns : ∀ r ∈ foldRuns, avoids [(0, 127)] r.2.2.2 (r.2.2.2 + (r.2.1 - r.1)) = true ∨
      r.1 = r.2.1 ∧ (Char.ofNat r.1 ∈ formsOfS ∨ Char.ofNat r.2.2.2 = 'k') := by decide +kernel
  rcases foldChar_cases hc with ⟨e, he, hkey, hf⟩ | ⟨r, hr, hfirst, hlast, hf⟩ | hf
  · rw [hf] at h
    have hform := hparted e he w hw h
    rwa [hkey, Char.ofNat_toNat] at hform
  · rw [hf] at h
    obtain ⟨hzero, hascii, hk⟩ := ascii_of_mem_words hw (h.subset (List.mem_singleton_self _))
    rcases hruns r hr with havoids | ⟨hone, hform⟩
    · have hout := not_codeIn_of_avoids havoids (Nat.le_add_right _ (c.toNat - r.1)) (by omega)
      rcases toNat_ofNat (r.2.2.2 + (c.toNat - r.1)) with hn | hn
      · rw [hn] at hascii
        exact absurd ⟨(0, 127), List.mem_singleton_self _, Nat.zero_le _, by omega⟩ hout
      · exact absurd hn hzero
    · have hc' : c.toNat = r.1 := by omega
      rcases hform with hform | hform
      · rwa [← hc', Char.ofNat_toNat] at hform
      · rw [hc', Nat.sub_self, Nat.add_zero] at hk
        exact absurd hform hk
  · rw [hf] at h
    exact absurd (ascii_of_mem_words hw (h.subset (List.mem_singleton_self _))).2.1 hc

/-! ### Texts that write words -/

/-- In the ASCII range folding makes letters small. -/
theorem foldChars_of_ascii {cs : List Char} (h : ∀ c ∈ cs, c.toNat < 128) : foldChars cs = lower cs := by
  induction cs with
  | nil => rfl
  | cons c r ih =>
      rw [List.forall_mem_cons] at h
      rw [foldChars_cons, foldChar_of_ascii h.1, ih h.2]
      rfl

/-- **A text is a word in small letters** exactly if its folding is that word and it has no form of an
s. -/
theorem lower_eq_word_iff {cs : List Char} {w : String} (hw : w ∈ words) :
    lower cs = w.toList ↔ foldChars cs = w.toList ∧ ∀ c ∈ cs, c ∉ formsOfS := by
  constructor
  · intro h
    have hascii : ∀ c ∈ cs, c.toNat < 128 := by
      intro c hc
      by_contra hout
      have hsmall : lowerChar c ∈ w.toList := h ▸ List.mem_map_of_mem hc
      rw [lowerChar_of_not_ascii hout] at hsmall
      exact hout (ascii_of_mem_words hw hsmall).2.1
    refine ⟨(foldChars_of_ascii hascii).trans h, fun c hc hform => ?_⟩
    have hforms : ∀ c ∈ formsOfS, ¬ c.toNat < 128 := List.all_iff_forall_prop.mp (by decide)
    exact hforms c hform (hascii c hc)
  · rintro ⟨h, hforms⟩
    have hascii : ∀ c ∈ cs, c.toNat < 128 := by
      intro c hc
      by_contra hout
      obtain ⟨before, behind, rfl⟩ := List.append_of_mem hc
      have hinfix : foldChar c <:+: w.toList := by
        rw [← h, foldChars, List.flatMap_append, List.flatMap_cons]
        exact ⟨_, _, List.append_assoc ..⟩
      exact hforms c hc (mem_formsOfS_of_isInfix hout hw hinfix)
    rw [← foldChars_of_ascii hascii, h]

/-- A text, as it is looked up among the words: in small letters, without the white space at its ends. -/
def smallWord (s : String) : String := String.ofList (lower (trim s.toList))

/-- **Looking a text up among the words** finds nothing if it has a form of an s, and otherwise what its
folding names. -/
theorem read_eq {α : Type} {read : String → Option α} (hread : ∀ w ∉ words, read w = none) (s : String) :
    read (smallWord s) = if HasFormOfS s then none else read (foldedWord s) := by
  have hlower {w : String} (hw : w ∈ words) :
      smallWord s = w ↔ foldedWord s = w ∧ ∀ c ∈ trim s.toList, c ∉ formsOfS := by
    rw [smallWord, foldedWord_eq, ← String.toList_inj, ← String.toList_inj, String.toList_ofList,
      String.toList_ofList]
    exact lower_eq_word_iff hw
  by_cases hs : HasFormOfS s
  · rw [if_pos hs]
    obtain ⟨c, hc, hform⟩ := hasFormOfS_iff.mp hs
    exact hread _ fun hw => ((hlower hw).mp rfl).2 c hc hform
  · rw [if_neg hs]
    have hforms : ∀ c ∈ trim s.toList, c ∉ formsOfS := fun c hc hform =>
      hs (hasFormOfS_iff.mpr ⟨c, hc, hform⟩)
    by_cases hw : foldedWord s ∈ words
    · rw [(hlower hw).mpr ⟨rfl, hforms⟩]
    · have hsmall : smallWord s ∉ words := fun hsmall => hw (((hlower hsmall).mp rfl).1 ▸ hsmall)
      rw [hread _ hw, hread _ hsmall]

/-- **Texts of one folding name the same thing,** unless it is something and just one of them has a form of
an s. -/
theorem read_eq_read_iff {α : Type} {read : String → Option α} (hread : ∀ w ∉ words, read w = none)
    {s t : String} (h : fold s = fold t) :
    read (smallWord s) = read (smallWord t) ↔
      (HasFormOfS s ↔ HasFormOfS t) ∨ read (foldedWord s) = none := by
  rw [read_eq hread, read_eq hread, foldedWord_eq_of_fold_eq h]
  by_cases hs : HasFormOfS s <;> by_cases ht : HasFormOfS t <;> simp [hs, ht, eq_comm]

/-! ### What the words name -/

/-- The truth value that a word in small letters stands for. -/
def Content.wordFor? (w : String) : Option Bool :=
  if trueWords.contains w then some true else if falseWords.contains w then some false else none

/-- The comparison with a word or symbol in small letters. -/
def Comparison.wordFor? (w : String) : Option Comparison :=
  values.find? fun c => c.word == w || c.symbol == w

theorem Content.boolean?_text (s : String) :
    (Content.of (.text s)).boolean? = wordFor? (smallWord s) := rfl

theorem Comparison.ofText?_eq (s : String) : ofText? s = wordFor? (smallWord s) := rfl

theorem Content.wordFor?_of_not_mem {w : String} (hw : w ∉ words) : wordFor? w = none := by
  simp only [words, List.mem_append, not_or] at hw
  obtain ⟨⟨⟨⟨htrue, hfalse⟩, -⟩, -⟩, -⟩ := hw
  rw [wordFor?, if_neg (by simpa using htrue), if_neg (by simpa using hfalse)]

theorem Comparison.wordFor?_of_not_mem {w : String} (hw : w ∉ words) : wordFor? w = none := by
  simp only [words, List.mem_append, not_or, List.mem_map, not_exists, not_and] at hw
  obtain ⟨⟨⟨-, hword⟩, hsymbol⟩, -⟩ := hw
  rw [wordFor?, List.find?_eq_none]
  intro c hc
  simpa using ⟨hword c hc, hsymbol c hc⟩

/-- Small letters and capitals of one letter have the same small letter and the same capital. -/
theorem Text.lowerChar_upperChar (c : Char) :
    lowerChar (upperChar c) = lowerChar c ∧ upperChar (lowerChar c) = upperChar c := by
  by_cases hc : c.toNat < 128
  · refine forall_ascii c hc ?_
    decide +kernel
  · have hupper : upperChar c = c := by
      unfold upperChar
      rw [if_neg]
      simp only [Bool.and_eq_true, decide_eq_true_eq]
      omega
    rw [lowerChar_of_not_ascii hc, hupper]
    exact ⟨lowerChar_of_not_ascii hc, rfl⟩

/-- **A combinator is named in any letter case,** by whatever characters fold to its word. -/
theorem Combinator.ofText_eq (s : String) :
    ofText s = if foldedWord s = "or" then .any else .all := by
  have hcapital (cs : List Char) : upper cs = ['O', 'R'] ↔ lower cs = "or".toList := by
    have hlower : lower (upper cs) = lower cs := by
      rw [lower, upper, List.map_map]
      exact List.map_congr_left fun c _ => (lowerChar_upperChar c).1
    have hupper : upper (lower cs) = upper cs := by
      rw [lower, upper, List.map_map]
      exact List.map_congr_left fun c _ => (lowerChar_upperChar c).2
    constructor
    · intro h
      rw [← hlower, h]
      decide
    · intro h
      rw [← hupper, h]
      decide
  -- the forms of an s fold to no letter of this word
  have hforms {cs : List Char} (h : foldChars cs = "or".toList) : ∀ c ∈ cs, c ∉ formsOfS := by
    have hs : ∀ c ∈ formsOfS, 's' ∈ foldChar c := List.all_iff_forall_prop.mp (by decide +kernel)
    intro c hc hform
    have hmem : 's' ∈ foldChars cs := List.mem_flatMap.mpr ⟨c, hc, hs c hform⟩
    rw [h] at hmem
    exact absurd hmem (by decide)
  have hmem : "or" ∈ words := List.mem_append_right _ (List.mem_cons_of_mem _ List.mem_cons_self)
  have hword : upper (trim s.toList) = ['O', 'R'] ↔ foldedWord s = "or" := by
    rw [hcapital, lower_eq_word_iff hmem, foldedWord_eq, ← String.toList_inj, String.toList_ofList,
      String.toList_ofList]
    exact and_iff_left_of_imp hforms
  rw [ofText]
  by_cases h : foldedWord s = "or"
  · rw [if_pos (hword.mpr h), if_pos h]
  · rw [if_neg (mt hword.mp h), if_neg h]

/-- **Letter case in texts.**  Texts of one folding stand for the same number and name the same combinator.
They stand for the same truth value, and name the same comparison, exactly if their folding stands for
none, or both or neither of them have a form of an s. -/
theorem readings_of_fold_eq {s t : String} (h : fold s = fold t) :
    (Content.of (.text s)).number? = (Content.of (.text t)).number? ∧
      Combinator.ofText s = Combinator.ofText t ∧
      ((Content.of (.text s)).boolean? = (Content.of (.text t)).boolean? ↔
        (HasFormOfS s ↔ HasFormOfS t) ∨ Content.wordFor? (foldedWord s) = none) ∧
      (Comparison.ofText? s = Comparison.ofText? t ↔
        (HasFormOfS s ↔ HasFormOfS t) ∨ Comparison.wordFor? (foldedWord s) = none) := by
  refine ⟨Decimal.ofText?_eq_of_fold_eq h, ?_, ?_, ?_⟩
  · rw [Combinator.ofText_eq, Combinator.ofText_eq, foldedWord_eq_of_fold_eq h]
  · rw [Content.boolean?_text, Content.boolean?_text]
    exact read_eq_read_iff (fun _ => Content.wordFor?_of_not_mem) h
  · rw [Comparison.ofText?_eq, Comparison.ofText?_eq]
    exact read_eq_read_iff (fun _ => Comparison.wordFor?_of_not_mem) h

end Verdict
