/-
# Numbers in JSON texts

A JSON number has no zeros in front of its whole part, and digits after its point.  The texts of
integers and of finite binary64 numbers are written so, and the reader takes them back whole, whatever
follows that does not go on with the number:

| text of | is taken as |
| --- | --- |
| an integer | the integer (`Json.takeToken?_integerText`) |
| a finite binary64 number | the decimal that the text writes (`Json.exists_takeToken?_finiteChars`) |
-/

import Verdict.Binary64.Shortest
import Verdict.Json.Token
import Verdict.Proofs.ScientificText

namespace Verdict

open Text

/-! ### Digits without zeros in front -/

namespace Text

/-- Whether characters are the digits of a whole part: some, and no zero in front of others. -/
structure IsWhole (whole : List Char) : Prop where
  digits : ∀ c ∈ whole, isAsciiDigit c = true
  nonempty : whole ≠ []
  unpadded : ∀ r, whole = '0' :: r → r = []

theorem isWhole_singleton {c : Char} (h : isAsciiDigit c = true) : IsWhole [c] where
  digits := List.forall_mem_singleton.mpr h
  nonempty := List.cons_ne_nil c []
  unpadded _ heq := (List.cons.inj heq).2.symm

/-- The digits of a number start with a zero only if that is all of them. -/
theorem isWhole_decimalDigits (n : Nat) : IsWhole (decimalDigits n) where
  digits _ := isAsciiDigit_of_mem_decimalDigits
  nonempty := decimalDigits_ne_nil n
  unpadded := by
    induction n using Nat.strongRecOn with
    | ind n ih =>
        intro r heq
        rw [decimalDigits_eq] at heq
        split at heq
        · exact (List.cons.inj heq).2.symm
        · next hn =>
          obtain ⟨c, s, hs⟩ := List.exists_cons_of_ne_nil (decimalDigits_ne_nil (n / 10))
          rw [hs, List.cons_append] at heq
          obtain ⟨rfl, -⟩ := List.cons.inj heq
          -- a tenth of the number is not zero, and its digits start with a zero
          obtain rfl := ih (n / 10) (by omega) s hs
          have hvalue := ofDigits_decimalDigits (n / 10)
          rw [hs] at hvalue
          have hzero : ofDigits (digitValues ['0']) = 0 := rfl
          omega

end Text

namespace Json

/-- Whether a text does not go on with a number that ends before it. -/
def EndsNumber (rest : List Char) : Prop :=
  ∀ c ∈ rest.head?, isAsciiDigit c = false ∧ c ≠ '.' ∧ c ≠ 'e' ∧ c ≠ 'E'

/-- An exponent as the text of a binary64 number writes it, and the value. -/
inductive WritesExponent : List Char → Option Int → Prop
  | none : WritesExponent [] none
  | some (e : Int) (digits : List Char) (hd : ∀ c ∈ digits, isAsciiDigit c = true)
      (hne : digits ≠ []) (hv : ofDigits (digitValues digits) = e.natAbs) :
      WritesExponent ('e' :: (if e < 0 then '-' else '+') :: digits) (some e)

section
variable {digits rest : List Char}

theorem takeWhile_append_digits (hd : ∀ c ∈ digits, isAsciiDigit c = true)
    (hr : ∀ c ∈ rest.head?, isAsciiDigit c = false) :
    (digits ++ rest).takeWhile isAsciiDigit = digits := by
  rw [List.takeWhile_append_of_pos hd]
  cases rest with
  | nil => exact List.append_nil digits
  | cons c r => rw [List.takeWhile_cons_of_neg (by simp [hr c rfl]), List.append_nil]

theorem digitsOf_append (hd : ∀ c ∈ digits, isAsciiDigit c = true)
    (hr : ∀ c ∈ rest.head?, isAsciiDigit c = false) : digitsOf (digits ++ rest) = digitValues digits := by
  rw [digitsOf, takeWhile_append_digits hd hr]
  rfl

theorem afterDigits_append (hd : ∀ c ∈ digits, isAsciiDigit c = true)
    (hr : ∀ c ∈ rest.head?, isAsciiDigit c = false) : afterDigits (digits ++ rest) = rest := by
  rw [afterDigits, List.dropWhile_append_of_pos hd]
  cases rest with
  | nil => rfl
  | cons c r => exact List.dropWhile_cons_of_neg (by simp [hr c rfl])

/-! ### Taking the parts of a number -/

theorem takeWhole?_append (h : IsWhole digits) (hr : ∀ c ∈ rest.head?, isAsciiDigit c = false) :
    takeWhole? (digits ++ rest) = some (digitValues digits, rest) := by
  obtain ⟨c, r, rfl⟩ := List.exists_cons_of_ne_nil h.nonempty
  by_cases hc : c = '0'
  · subst hc
    obtain rfl := h.unpadded r rfl
    rfl
  · have hdigits := digitsOf_append h.digits hr
    have hafter := afterDigits_append (List.forall_mem_cons.mp h.digits).2 hr
    rw [List.cons_append] at hdigits ⊢
    unfold takeWhole?
    split
    · next heq => exact absurd (List.cons.inj heq).1 hc
    · next heq =>
      obtain ⟨rfl, rfl⟩ := List.cons.inj heq
      rw [if_pos (h.digits c List.mem_cons_self), hdigits, hafter]
    · next heq => cases heq

variable {whole exponentChars : List Char} {fraction : Option (List Char)} {exponent : Option Int}

theorem takeFraction_append (hf : ∀ ds ∈ fraction, ds ≠ [] ∧ ∀ c ∈ ds, isAsciiDigit c = true)
    (hr : ∀ c ∈ rest.head?, isAsciiDigit c = false ∧ c ≠ '.') :
    takeFraction (pointChars fraction ++ rest) = (fraction.map digitValues, rest) := by
  cases fraction with
  | none =>
      cases rest with
      | nil => rfl
      | cons c r =>
          unfold takeFraction
          split
          · next heq => exact absurd (List.cons.inj heq).1 (hr c rfl).2
          · rfl
  | some ds =>
      obtain ⟨hne, hd⟩ := hf ds rfl
      have hr' : ∀ c ∈ rest.head?, isAsciiDigit c = false := fun c hc => (hr c hc).1
      have hsome : (digitValues ds).isEmpty = false := by
        rw [List.isEmpty_eq_false_iff, digitValues, ne_eq, List.map_eq_nil_iff]
        exact hne
      rw [pointChars, List.cons_append, takeFraction, digitsOf_append hd hr', afterDigits_append hd hr',
        hsome]
      rfl

theorem takeExponent_append (he : WritesExponent exponentChars exponent) (hr : EndsNumber rest) :
    takeExponent (exponentChars ++ rest) = (exponent, rest) := by
  cases he with
  | none =>
      cases rest with
      | nil => rfl
      | cons c r =>
          obtain ⟨-, -, he, hE⟩ := hr c rfl
          rw [List.nil_append, takeExponent]
          simp [he, hE]
  | some e digits hd hne hv =>
      have hr' : ∀ c ∈ rest.head?, isAsciiDigit c = false := fun c hc => (hr c hc).1
      have hsign : takeSign ((if e < 0 then '-' else '+') :: (digits ++ rest)) =
          (decide (e < 0), digits ++ rest) := by
        split <;> simp_all [takeSign]
      have hsome : (digitValues digits).isEmpty = false := by
        rw [List.isEmpty_eq_false_iff, digitValues, ne_eq, List.map_eq_nil_iff]
        exact hne
      rw [List.cons_append, List.cons_append, takeExponent, hsign]
      simp only [digitsOf_append hd hr', afterDigits_append hd hr', hsome, hv, beq_self_eq_true,
        Bool.true_or, Bool.not_false, Bool.and_self, if_true, decide_eq_true_eq, Prod.mk.injEq,
        Option.some.injEq, and_true]
      split <;> omega

/-- **A number is taken as it is written:** sign, digits, point, digits and exponent. -/
theorem takeNumber?_append (negative : Bool) (hw : IsWhole whole)
    (hf : ∀ ds ∈ fraction, ds ≠ [] ∧ ∀ c ∈ ds, isAsciiDigit c = true)
    (he : WritesExponent exponentChars exponent) (hr : EndsNumber rest) :
    takeNumber? (signChars negative ++
        (whole ++ (pointChars fraction ++ (exponentChars ++ rest)))) =
      some (⟨negative, digitValues whole, fraction.map digitValues, exponent⟩, rest) := by
  have hafter : ∀ c ∈ (exponentChars ++ rest).head?, isAsciiDigit c = false ∧ c ≠ '.' := by
    cases he with
    | none => exact fun c hc => ⟨(hr c hc).1, (hr c hc).2.1⟩
    | some e digits => exact fun c hc => by rw [← Option.mem_some.mp hc]; decide
  have hpoint : ∀ c ∈ (pointChars fraction ++ (exponentChars ++ rest)).head?,
      isAsciiDigit c = false := by
    cases fraction with
    | none => exact fun c hc => (hafter c hc).1
    | some ds => exact fun c hc => by rw [← Option.mem_some.mp hc]; decide
  have hunsigned : takeUnsigned? negative
      (whole ++ (pointChars fraction ++ (exponentChars ++ rest))) =
        some (⟨negative, digitValues whole, fraction.map digitValues, exponent⟩, rest) := by
    rw [takeUnsigned?, takeWhole?_append hw hpoint]
    simp only [Option.map_some, takeFraction_append hf hafter, takeExponent_append he hr]
  cases negative with
  | true => exact hunsigned
  | false =>
      obtain ⟨c, r, rfl⟩ := List.exists_cons_of_ne_nil hw.nonempty
      have hminus : c ≠ '-' := by
        rintro rfl
        cases hw.digits _ List.mem_cons_self
      change takeNumber? (c :: _) = _
      rw [takeNumber?]
      · exact hunsigned
      · exact fun _ heq => hminus (List.cons.inj heq).1

/-- What starts like a number is taken as one, unless it is a constant. -/
theorem takeToken?_of_takeNumber? {c : Char} {cs r : List Char} {n : Numeral}
    (hc : isAsciiDigit c = true ∨ c = '-') (hconstant : takeConstant? (c :: cs) = none)
    (hnumber : takeNumber? (c :: cs) = some (n, r)) :
    takeToken? (c :: cs) = some (.number n, r) := by
  rw [takeToken?, hconstant]
  · simp only [hnumber, Option.map_some]
  all_goals
    intro _ heq
    obtain ⟨rfl, -⟩ := List.cons.inj heq
    rcases hc with hc | hc <;> cases hc

/-- No constant starts with a digit, or with a minus before one. -/
theorem takeConstant?_signChars (negative : Bool) {c : Char} (hc : isAsciiDigit c = true)
    (cs : List Char) : takeConstant? (signChars negative ++ c :: cs) = none := by
  have hletters : 'n' ≠ c ∧ 't' ≠ c ∧ 'f' ≠ c ∧ 'N' ≠ c ∧ 'I' ≠ c ∧ '-' ≠ c := by
    refine ⟨?_, ?_, ?_, ?_, ?_, ?_⟩ <;>
      · rintro rfl
        cases hc
  cases negative <;> simp [takeConstant?, constants, signChars, List.isPrefixOf, hletters]

/-- **So it is the next token.** -/
theorem takeToken?_append (negative : Bool) (hw : IsWhole whole)
    (hf : ∀ ds ∈ fraction, ds ≠ [] ∧ ∀ c ∈ ds, isAsciiDigit c = true)
    (he : WritesExponent exponentChars exponent) (hr : EndsNumber rest) :
    takeToken? (signChars negative ++
        (whole ++ (pointChars fraction ++ (exponentChars ++ rest)))) =
      some (.number ⟨negative, digitValues whole, fraction.map digitValues, exponent⟩, rest) := by
  have hnumber := takeNumber?_append negative hw hf he hr
  obtain ⟨c, r, rfl⟩ := List.exists_cons_of_ne_nil hw.nonempty
  have hc := hw.digits c List.mem_cons_self
  rw [List.cons_append] at hnumber ⊢
  have hconstant := takeConstant?_signChars negative hc
    (r ++ (pointChars fraction ++ (exponentChars ++ rest)))
  cases negative with
  | true => exact takeToken?_of_takeNumber? (Or.inr rfl) hconstant hnumber
  | false => exact takeToken?_of_takeNumber? (Or.inl hc) hconstant hnumber

end

/-! ### Texts of integers -/

theorem toList_integerText (n : Int) :
    (integerText n).toList = signChars (decide (n < 0)) ++ decimalDigits n.natAbs := by
  cases n with
  | ofNat k =>
      have hpos : ¬ (Int.ofNat k) < 0 := by simp
      rw [integerText, String.toList_ofList, decide_eq_false hpos]
      rfl
  | negSucc k =>
      rw [integerText, String.toList_ofList, decide_eq_true (Int.negSucc_lt_zero k)]
      rfl

/-- The numeral of an integer. -/
def integerNumeral (n : Int) : Numeral :=
  ⟨decide (n < 0), digitValues (decimalDigits n.natAbs), none, none⟩

theorem toInt_integerNumeral (n : Int) : (integerNumeral n).toInt = n := by
  simp only [integerNumeral, Numeral.toInt, ofDigits_decimalDigits, decide_eq_true_eq]
  split <;> omega

theorem length_integerNumeral (n : Int) : (integerNumeral n).whole.length = digitCount n.natAbs := by
  rw [integerNumeral, digitValues, List.length_map, length_decimalDigits]

/-- **The text of an integer** is taken as that integer. -/
theorem takeToken?_integerText (n : Int) {rest : List Char} (hr : EndsNumber rest) :
    takeToken? ((integerText n).toList ++ rest) = some (.number (integerNumeral n), rest) := by
  have hnone : ∀ ds ∈ (none : Option (List Char)), ds ≠ [] ∧ ∀ c ∈ ds, isAsciiDigit c = true :=
    fun _ => nofun
  have htake := takeToken?_append (decide (n < 0)) (isWhole_decimalDigits n.natAbs) hnone .none hr
  rw [toList_integerText, List.append_assoc]
  exact htake

/-! ### Texts of binary64 numbers -/

/-- Whether a text writes the number of some digits with a point before the last of them, as a JSON
number does. -/
def WritesNumber (digits text : List Char) (places : Nat) : Prop :=
  ∃ (whole : List Char) (fraction : Option (List Char)), IsWhole whole ∧
    (∀ ds ∈ fraction, ds ≠ [] ∧ ∀ c ∈ ds, isAsciiDigit c = true) ∧
    text = whole ++ pointChars fraction ∧
    ofDigits (digitValues (whole ++ fraction.getD [])) = ofDigits (digitValues digits) ∧
    (fraction.getD []).length = places

theorem writesNumber_split {whole fraction : List Char} (hw : IsWhole whole) (hne : fraction ≠ [])
    (hf : ∀ c ∈ fraction, isAsciiDigit c = true) :
    WritesNumber (whole ++ fraction) (whole ++ '.' :: fraction) fraction.length :=
  ⟨whole, some fraction, hw, fun _ h => Option.mem_some.mp h ▸ ⟨hne, hf⟩, rfl, rfl, rfl⟩

section
variable {digits : List Char} (hd : IsWhole digits)
include hd

theorem writesNumber_leadingPoint : WritesNumber digits (leadingPoint digits) (digits.length - 1) := by
  match digits with
  | [] => exact absurd rfl hd.nonempty
  | [c] => exact ⟨[c], none, hd, fun _ => nofun, rfl, rfl, rfl⟩
  | c :: d :: r =>
      have hdigits := List.forall_mem_cons.mp hd.digits
      exact writesNumber_split (isWhole_singleton hdigits.1) (List.cons_ne_nil d r) hdigits.2

theorem writesNumber_pointed {places : Nat} (hp : 0 < places) :
    WritesNumber digits (pointed digits places) places := by
  unfold pointed
  rw [if_neg (by simpa using Nat.ne_of_gt hp)]
  split
  · next hlt =>
    have hsplit := List.take_append_drop (digits.length - places) digits
    have hforall := List.forall_mem_append.mp (hsplit ▸ hd.digits)
    have hwhole : IsWhole (digits.take (digits.length - places)) := by
      refine ⟨hforall.1, ?_, fun r heq => ?_⟩
      · apply List.ne_nil_of_length_pos
        rw [List.length_take]
        omega
      · -- more digits follow, so that the first of them is no zero
        rw [heq, List.cons_append] at hsplit
        have hlength := congrArg List.length (hd.unpadded _ hsplit.symm)
        rw [List.length_append, List.length_drop, List.length_nil] at hlength
        omega
    have hne : digits.drop (digits.length - places) ≠ [] := by
      apply List.ne_nil_of_length_pos
      rw [List.length_drop]
      omega
    have h := writesNumber_split hwhole hne hforall.2
    rwa [hsplit, List.length_drop, show digits.length - (digits.length - places) = places by omega]
      at h
  · next hge =>
    refine ⟨['0'], some (List.replicate (places - digits.length) '0' ++ digits),
      isWhole_singleton rfl, ?_, rfl, ofDigits_zeros (places - digits.length + 1) digits, ?_⟩
    · rintro _ ⟨⟩
      refine ⟨List.append_ne_nil_of_right_ne_nil _ hd.nonempty, ?_⟩
      rw [List.forall_mem_append]
      exact ⟨fun c hc => List.eq_of_mem_replicate hc ▸ rfl, hd.digits⟩
    · rw [Option.getD_some, List.length_append, List.length_replicate]
      omega

end

theorem writesExponent_twoDigits (e : Int) :
    WritesExponent ('e' :: (if e < 0 then '-' else '+') :: Binary64.twoDigits e.natAbs) (some e) := by
  have hd : ∀ c ∈ decimalDigits e.natAbs, isAsciiDigit c = true := fun _ =>
    isAsciiDigit_of_mem_decimalDigits
  refine .some e _ ?_ ?_ ?_
  all_goals
    unfold Binary64.twoDigits
    split
  · exact List.forall_mem_cons.mpr ⟨rfl, hd⟩
  · exact hd
  · exact List.cons_ne_nil _ _
  · exact decimalDigits_ne_nil _
  · exact (ofDigits_zeros 1 _).trans (ofDigits_decimalDigits _)
  · exact ofDigits_decimalDigits _

/-- **The text of a finite binary64 number** is taken as a number with a fraction or an exponent, and
is the decimal that the text writes. -/
theorem exists_takeToken?_finiteChars (x : Binary64) :
    ∃ n : Numeral, n.isInteger = false ∧ n.toDecimal = x.toDecimal ∧
      ∀ rest, EndsNumber rest → takeToken? (x.finiteChars ++ rest) = some (.number n, rest) := by
  have hdigits := isWhole_decimalDigits x.toDecimal.coefficient
  obtain ⟨text, exponentChars, exponent, places, hchars, he, hexponent, hsome, whole, fraction, hw, hf,
    rfl, hv, hl⟩ :
      ∃ (text exponentChars : List Char) (exponent : Option Int) (places : Nat),
        x.finiteChars = signChars x.negative ++ (text ++ exponentChars) ∧
        WritesExponent exponentChars exponent ∧
        exponent.getD 0 - (places : Int) = x.toDecimal.exponent ∧
        (0 < places ∨ exponent.isSome = true) ∧
        WritesNumber (decimalDigits x.toDecimal.coefficient) text places := by
    unfold Binary64.finiteChars
    dsimp only
    split
    · next h =>
      rw [Bool.and_eq_true, decide_eq_true_eq] at h
      refine ⟨_, [], none, (-x.toDecimal.exponent).toNat, by rw [List.append_nil], .none, ?_,
        Or.inl (by omega), writesNumber_pointed hdigits (by omega)⟩
      rw [Option.getD_none]
      omega
    · refine ⟨_, _, some x.toDecimal.adjusted, _, rfl, writesExponent_twoDigits _, ?_, Or.inr rfl,
        writesNumber_leadingPoint hdigits⟩
      have := digitCount_pos x.toDecimal.coefficient
      rw [Option.getD_some, length_decimalDigits, Decimal.adjusted]
      omega
  refine ⟨⟨x.negative, digitValues whole, fraction.map digitValues, exponent⟩, ?_, ?_,
    fun rest hrest => ?_⟩
  · rcases hsome with hplaces | hsome
    · cases fraction with
      | none => exact absurd hl (Nat.ne_of_lt hplaces)
      | some ds => rfl
    · obtain ⟨e, rfl⟩ := Option.isSome_iff_exists.mp hsome
      exact Bool.and_false _
  · have hnegative : x.toDecimal.negative = x.negative := by
      unfold Binary64.toDecimal
      dsimp only
      split <;> rfl
    rw [← hnegative]
    exact Decimal.toDecimal_written hv hl hexponent
  · rw [hchars, List.append_assoc, List.append_assoc, List.append_assoc]
    exact takeToken?_append x.negative hw hf he hrest

end Json
end Verdict
