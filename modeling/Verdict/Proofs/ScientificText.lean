/-
# Reading scientific text back

The scientific text of a decimal stands for that very decimal, digit for digit and exponent for
exponent, wherever the point is put (`Decimal.ofText?_text`).  So does any text with the same case
folding.
-/

import Mathlib.Tactic.Ring
import Verdict.Decimal.Scientific
import Verdict.Proofs.FoldedNumber

namespace Verdict

open Text

namespace Text

/-- The values of decimal digits of the ASCII range. -/
def digitValues (cs : List Char) : List Nat := cs.map fun c => c.toNat - 48

theorem digit?_of_isAsciiDigit {c : Char} (h : isAsciiDigit c = true) :
    digit? c = some (c.toNat - 48) := by
  simp only [isAsciiDigit, Bool.and_eq_true, decide_eq_true_eq] at h
  rw [digit?, if_pos (by omega), if_pos (by simpa using h)]

theorem ofDigits_append (xs ys : List Nat) :
    ofDigits (xs ++ ys) = ofDigits xs * 10 ^ ys.length + ofDigits ys := by
  have hstart (start : Nat) : ys.foldl (fun n d => 10 * n + d) start =
      start * 10 ^ ys.length + ofDigits ys := by
    unfold ofDigits
    induction ys generalizing start with
    | nil => simp
    | cons y r ih =>
        rw [List.foldl_cons, List.foldl_cons, ih, ih (10 * 0 + y), List.length_cons]
        ring
  rw [ofDigits, List.foldl_append, hstart]
  rfl

end Text

theorem isAsciiDigit_of_mem_decimalDigits {n : Nat} {c : Char} (h : c ∈ decimalDigits n) :
    isAsciiDigit c = true := by
  have hdigit := Nat.isDigit_of_mem_toDigits (by decide) (by decide) h
  simpa [Char.isDigit, isAsciiDigit, Char.le_def, UInt32.le_iff_toNat_le] using hdigit

theorem decimalDigits_eq (n : Nat) :
    decimalDigits n =
      if n < 10 then [n.digitChar] else decimalDigits (n / 10) ++ [(n % 10).digitChar] :=
  Nat.toDigits_eq_if (by decide)

theorem ofDigits_digitChar {d : Nat} (h : d < 10) : ofDigits (digitValues [d.digitChar]) = d := by
  revert d
  decide

theorem ofDigits_decimalDigits (n : Nat) : ofDigits (digitValues (decimalDigits n)) = n := by
  induction n using Nat.strongRecOn with
  | ind n ih =>
      rw [decimalDigits_eq]
      split
      · next h => exact ofDigits_digitChar h
      · next h =>
        rw [digitValues, List.map_append, ofDigits_append, ← digitValues, ← digitValues,
          ih (n / 10) (by omega), ofDigits_digitChar (Nat.mod_lt n (by decide))]
        simp only [digitValues, List.length_map, List.length_singleton]
        omega

theorem length_decimalDigits (n : Nat) : (decimalDigits n).length = digitCount n := by
  have hpos : 0 < (decimalDigits n).length := Nat.length_toDigits_pos
  apply Nat.le_antisymm
  · rw [decimalDigits, Nat.length_toDigits_le_iff (by decide) (digitCount_pos n),
      ← digitCount_le_iff n (digitCount_pos n)]
  · rw [digitCount_le_iff n hpos, ← Nat.length_toDigits_le_iff (by decide) hpos]
    rfl

theorem decimalDigits_ne_nil (n : Nat) : decimalDigits n ≠ [] :=
  List.ne_nil_of_length_pos Nat.length_toDigits_pos

/-! ### Numerals as they are written -/

/-- A point and digits after it, where they are written. -/
def pointChars : Option (List Char) → List Char
  | none => []
  | some digits => '.' :: digits

/-- An exponent with its mark, where it is written. -/
def markedExponent : Option Int → List Char
  | none => []
  | some e => 'E' :: signedExponent e

namespace Numeral

theorem takeDigits_append {digits rest : List Char} (hd : ∀ c ∈ digits, isAsciiDigit c = true)
    (hr : ∀ c ∈ rest.head?, digit? c = none) :
    takeDigits (digits ++ rest) = (digitValues digits, rest) := by
  induction digits with
  | nil =>
      cases rest with
      | nil => rfl
      | cons c r => simp only [List.nil_append, takeDigits, hr c rfl]; rfl
  | cons c r ih =>
      rw [List.forall_mem_cons] at hd
      simp only [List.cons_append, takeDigits, digit?_of_isAsciiDigit hd.1, ih hd.2]
      rfl

theorem takeSign_signChars (negative : Bool) {rest : List Char}
    (h : ∀ c ∈ rest.head?, isAsciiDigit c = true) :
    takeSign (signChars negative ++ rest) = (negative, rest) := by
  cases negative with
  | true => rfl
  | false =>
      cases rest with
      | nil => rfl
      | cons c r =>
          have hc := h c rfl
          have hminus : c ≠ '-' := by rintro rfl; cases hc
          have hplus : c ≠ '+' := by rintro rfl; cases hc
          simp [signChars, takeSign, hminus, hplus]

theorem takeDigits_decimalDigits (n : Nat) :
    takeDigits (decimalDigits n) = (digitValues (decimalDigits n), []) := by
  rw [← List.append_nil (decimalDigits n)]
  have hnil : ∀ c ∈ ([] : List Char).head?, digit? c = none := by simp
  rw [takeDigits_append (fun _ => isAsciiDigit_of_mem_decimalDigits) hnil, List.append_nil]

theorem exponent?_markedExponent (e : Option Int) : exponent? (markedExponent e) = some e := by
  cases e with
  | none => rfl
  | some e =>
      obtain ⟨d, ds, hds⟩ :
          ∃ d ds, digitValues (decimalDigits e.natAbs) = d :: ds :=
        List.exists_cons_of_ne_nil fun h => decimalDigits_ne_nil _ (List.map_eq_nil_iff.mp h)
      have hvalue := ofDigits_decimalDigits e.natAbs
      have hsign : takeSign (signedExponent e) = (decide (e < 0), decimalDigits e.natAbs) := by
        unfold signedExponent
        split <;> simp_all [takeSign]
      rw [hds] at hvalue
      rw [markedExponent, exponent?, if_pos (by decide), hsign]
      simp only [takeDigits_decimalDigits, hds, hvalue, decide_eq_true_eq, Option.some.injEq]
      split <;> omega

variable {whole : List Char} {fraction : Option (List Char)} {exponent : Option Int}

/-- What follows the digits before the point begins with a point or a mark, if there is more. -/
theorem head?_afterWhole (fraction : Option (List Char)) (exponent : Option Int) :
    ∀ c ∈ (pointChars fraction ++ markedExponent exponent).head?, c = '.' ∨ c = 'E' := by
  cases fraction <;> cases exponent <;> simp [pointChars, markedExponent]

theorem takeFraction_written (hf : ∀ digits ∈ fraction, ∀ c ∈ digits, isAsciiDigit c = true) :
    takeFraction (pointChars fraction ++ markedExponent exponent) =
      (fraction.map digitValues, markedExponent exponent) := by
  have hmark : ∀ c ∈ (markedExponent exponent).head?, digit? c = none := by
    cases exponent with
    | none => simp [markedExponent]
    | some e => simp [markedExponent]; decide
  cases fraction with
  | none => cases exponent <;> rfl
  | some digits =>
      rw [pointChars, List.cons_append, takeFraction, takeDigits_append (hf digits rfl) hmark]
      rfl

/-- **A numeral is read as it is written:** sign, digits, point, digits and exponent. -/
theorem ofChars?_written (negative : Bool) (hne : whole ≠ [])
    (hw : ∀ c ∈ whole, isAsciiDigit c = true)
    (hf : ∀ digits ∈ fraction, ∀ c ∈ digits, isAsciiDigit c = true) :
    ofChars? (signChars negative ++ (whole ++ (pointChars fraction ++ markedExponent exponent))) =
      some ⟨negative, digitValues whole, fraction.map digitValues, exponent⟩ := by
  obtain ⟨c, r, rfl⟩ := List.exists_cons_of_ne_nil hne
  have hsign : takeSign (signChars negative ++
      (c :: r ++ (pointChars fraction ++ markedExponent exponent))) =
        (negative, c :: r ++ (pointChars fraction ++ markedExponent exponent)) :=
    takeSign_signChars negative fun x hx => (Option.mem_some.mp hx) ▸ hw c List.mem_cons_self
  have hrest : ∀ x ∈ (pointChars fraction ++ markedExponent exponent).head?, digit? x = none := by
    intro x hx
    rcases head?_afterWhole fraction exponent x hx with rfl | rfl <;> decide
  have hgroups : takeGroups (pointChars fraction ++ markedExponent exponent) =
      ([], pointChars fraction ++ markedExponent exponent) := by
    apply takeGroups_of_not_hasGroup
    rintro ⟨a, b, d, rest, heq, -⟩
    rcases head?_afterWhole fraction exponent ',' (by rw [heq]; rfl) with h | h <;> cases h
  have hwhole : takeWhole (c :: r ++ (pointChars fraction ++ markedExponent exponent)) =
      (digitValues (c :: r), pointChars fraction ++ markedExponent exponent) := by
    simp only [takeWhole, takeDigits_append hw hrest, hgroups, List.append_nil, ite_self]
  simp only [ofChars?, hsign, hwhole, takeFraction_written hf, exponent?_markedExponent]
  rfl

end Numeral

/-- Whether a text writes the number of some digits with a point before the last of them: at least
one digit, and as many after the point as there are places. -/
def WritesDigits (digits text : List Char) (places : Nat) : Prop :=
  ∃ (whole : List Char) (fraction : Option (List Char)), whole ≠ [] ∧
    (∀ c ∈ whole, isAsciiDigit c = true) ∧
    (∀ ds ∈ fraction, ∀ c ∈ ds, isAsciiDigit c = true) ∧ text = whole ++ pointChars fraction ∧
    ofDigits (digitValues (whole ++ fraction.getD [])) = ofDigits (digitValues digits) ∧
    (fraction.getD []).length = places

section
variable {digits : List Char}

theorem writesDigits_self (hne : digits ≠ []) (hd : ∀ c ∈ digits, isAsciiDigit c = true) :
    WritesDigits digits digits 0 :=
  ⟨digits, none, hne, hd, by simp, by simp [pointChars], by simp, rfl⟩

theorem writesDigits_split (whole fraction : List Char) (hne : whole ≠ [])
    (hd : ∀ c ∈ whole ++ fraction, isAsciiDigit c = true) :
    WritesDigits (whole ++ fraction) (whole ++ '.' :: fraction) fraction.length := by
  rw [List.forall_mem_append] at hd
  exact ⟨whole, some fraction, hne, hd.1, by simpa using hd.2, rfl, rfl, rfl⟩

/-- Zeros at the front do not count. -/
theorem ofDigits_zeros (n : Nat) (digits : List Char) :
    ofDigits (digitValues (List.replicate n '0' ++ digits)) = ofDigits (digitValues digits) := by
  have hzeros : ofDigits (digitValues (List.replicate n '0')) = 0 := by
    induction n with
    | zero => rfl
    | succ n ih =>
        rw [List.replicate_succ', digitValues, List.map_append, ofDigits_append, ← digitValues, ih]
        rfl
  rw [digitValues, List.map_append, ofDigits_append, ← digitValues, ← digitValues, hzeros,
    Nat.zero_mul, Nat.zero_add]

theorem writesDigits_pointed (hne : digits ≠ []) (hd : ∀ c ∈ digits, isAsciiDigit c = true)
    (places : Nat) : WritesDigits digits (pointed digits places) places := by
  unfold pointed
  split
  · next h =>
    rw [eq_of_beq h]
    exact writesDigits_self hne hd
  · split
    · next hlt =>
      have hsplit := List.take_append_drop (digits.length - places) digits
      have hwhole : digits.take (digits.length - places) ≠ [] := by
        apply List.ne_nil_of_length_pos
        rw [List.length_take]
        omega
      have h := writesDigits_split _ (digits.drop (digits.length - places)) hwhole
        (by rwa [hsplit])
      rw [hsplit, List.length_drop] at h
      rwa [show digits.length - (digits.length - places) = places by omega] at h
    · next hge =>
      have hzero (n : Nat) : ∀ c ∈ List.replicate n '0', isAsciiDigit c = true := by
        intro c hc
        rw [List.eq_of_mem_replicate hc]
        rfl
      refine ⟨['0'], some (List.replicate (places - digits.length) '0' ++ digits),
        List.cons_ne_nil _ _, hzero 1, ?_, rfl, ?_, ?_⟩
      · rintro _ ⟨⟩
        exact List.forall_mem_append.mpr ⟨hzero _, hd⟩
      · exact ofDigits_zeros (places - digits.length + 1) digits
      · rw [Option.getD_some, List.length_append, List.length_replicate]
        omega

theorem writesDigits_leadingPoint (hne : digits ≠ []) (hd : ∀ c ∈ digits, isAsciiDigit c = true) :
    WritesDigits digits (leadingPoint digits) (digits.length - 1) := by
  match digits with
  | [] => exact absurd rfl hne
  | [c] => exact writesDigits_self hne hd
  | c :: d :: r => exact writesDigits_split [c] (d :: r) (List.cons_ne_nil c []) hd

end

/-! ### What the parts of a written number hold -/

/-- A text without white space is left as it is. -/
theorem trim_eq_self {cs : List Char} (h : ∀ c ∈ cs, isBlank c = false) : trim cs = cs := by
  have hdrop (cs : List Char) (h : ∀ c ∈ cs, isBlank c = false) : cs.dropWhile isBlank = cs := by
    cases cs with
    | nil => rfl
    | cons c r => exact List.dropWhile_cons_of_neg (by simp [h c List.mem_cons_self])
  rw [trim, strip, hdrop _ h, hdrop _ (by simpa using h), List.reverse_reverse]

theorem isBlank_of_isAsciiDigit {c : Char} (h : isAsciiDigit c = true) : isBlank c = false := by
  simp only [isAsciiDigit, Bool.and_eq_true, decide_eq_true_eq] at h
  simp only [isBlank, isSpace, Bool.or_eq_false_iff, Bool.and_eq_false_iff, decide_eq_false_iff_not,
    beq_eq_false_iff_ne]
  omega

theorem isBlank_of_mem_signChars {negative : Bool} {c : Char} (h : c ∈ signChars negative) :
    isBlank c = false := by
  cases negative with
  | true => rw [List.mem_singleton.mp h]; rfl
  | false => cases h

theorem isBlank_of_mem_pointChars {fraction : Option (List Char)}
    (hf : ∀ ds ∈ fraction, ∀ c ∈ ds, isAsciiDigit c = true) {c : Char}
    (h : c ∈ pointChars fraction) : isBlank c = false := by
  cases fraction with
  | none => cases h
  | some ds =>
      rcases List.mem_cons.mp h with rfl | h
      · rfl
      · exact isBlank_of_isAsciiDigit (hf ds rfl c h)

theorem isBlank_of_mem_markedExponent {exponent : Option Int} {c : Char}
    (h : c ∈ markedExponent exponent) : isBlank c = false := by
  cases exponent with
  | none => cases h
  | some e =>
      rcases List.mem_cons.mp h with rfl | h
      · rfl
      · rcases List.mem_cons.mp h with rfl | h
        · split <;> rfl
        · exact isBlank_of_isAsciiDigit (isAsciiDigit_of_mem_decimalDigits h)

namespace Decimal

/-- A number that is written with the digits of a decimal's coefficient, a point before the last of
them and an exponent to match, is that decimal. -/
theorem toDecimal_written {d : Decimal} {whole : List Char} {fraction : Option (List Char)}
    {exponent : Option Int} {places : Nat}
    (hv : ofDigits (digitValues (whole ++ fraction.getD [])) =
      ofDigits (digitValues (decimalDigits d.coefficient)))
    (hl : (fraction.getD []).length = places) (he : exponent.getD 0 - (places : Int) = d.exponent) :
    Numeral.toDecimal ⟨d.negative, digitValues whole, fraction.map digitValues, exponent⟩ = d := by
  have hdigits : (fraction.map digitValues).getD [] = digitValues (fraction.getD []) := by
    cases fraction <;> rfl
  have hcoefficient : ofDigits (digitValues whole ++ digitValues (fraction.getD [])) =
      d.coefficient := by
    rw [digitValues, digitValues, ← List.map_append, ← digitValues, hv, ofDigits_decimalDigits]
  have hlength : (digitValues (fraction.getD [])).length = places := by
    rw [digitValues, List.length_map, hl]
  simp only [Numeral.toDecimal, hdigits, hcoefficient, hlength, he]

/-- **The scientific text of a decimal writes that decimal,** whatever its range: digits, with a
point and more digits or without, and an exponent or none. -/
theorem exists_written (d : Decimal) :
    ∃ (whole : List Char) (fraction : Option (List Char)) (exponent : Option Int),
      whole ≠ [] ∧ (∀ c ∈ whole, isAsciiDigit c = true) ∧
      (∀ ds ∈ fraction, ∀ c ∈ ds, isAsciiDigit c = true) ∧
      d.chars = signChars d.negative ++ (whole ++ (pointChars fraction ++ markedExponent exponent)) ∧
      Numeral.toDecimal ⟨d.negative, digitValues whole, fraction.map digitValues, exponent⟩ = d := by
  have hd : ∀ c ∈ decimalDigits d.coefficient, isAsciiDigit c = true := fun _ =>
    isAsciiDigit_of_mem_decimalDigits
  have hne := decimalDigits_ne_nil d.coefficient
  obtain ⟨text, exponent, places, hchars, hexponent, whole, fraction, hw, hwd, hfd, rfl, hv, hl⟩ :
      ∃ (text : List Char) (exponent : Option Int) (places : Nat),
        d.chars = signChars d.negative ++ (text ++ markedExponent exponent) ∧
        exponent.getD 0 - (places : Int) = d.exponent ∧
        WritesDigits (decimalDigits d.coefficient) text places := by
    unfold chars
    dsimp only
    split
    · next h =>
      simp only [Bool.and_eq_true, decide_eq_true_eq] at h
      refine ⟨_, none, (-d.exponent).toNat, by rw [markedExponent, List.append_nil], ?_,
        writesDigits_pointed hne hd _⟩
      simp only [Option.getD_none]
      omega
    · refine ⟨_, some d.adjusted, _, rfl, ?_, writesDigits_leadingPoint hne hd⟩
      have := digitCount_pos d.coefficient
      simp only [Option.getD_some, length_decimalDigits, adjusted]
      omega
  exact ⟨whole, fraction, exponent, hw, hwd, hfd, by rw [hchars, List.append_assoc],
    toDecimal_written hv hl hexponent⟩

theorem trim_chars (d : Decimal) : trim d.chars = d.chars := by
  obtain ⟨whole, fraction, exponent, -, hw, hf, hchars, -⟩ := exists_written d
  refine trim_eq_self ?_
  rw [hchars]
  simp only [List.forall_mem_append]
  exact ⟨fun _ => isBlank_of_mem_signChars, fun c hc => isBlank_of_isAsciiDigit (hw c hc),
    fun _ => isBlank_of_mem_pointChars hf, fun _ => isBlank_of_mem_markedExponent⟩

/-- **The scientific text of a decimal in range is read as that decimal.** -/
theorem ofText?_text {d : Decimal} (h : d.inRange = true) : ofText? d.text = some d := by
  obtain ⟨whole, fraction, exponent, hne, hw, hf, hchars, hd⟩ := exists_written d
  have hread : Numeral.ofChars? d.chars =
      some ⟨d.negative, digitValues whole, fraction.map digitValues, exponent⟩ := by
    rw [hchars]
    exact Numeral.ofChars?_written d.negative hne hw hf
  rw [ofText?, text, String.toList_ofList, trim_chars, hread, Option.bind_some, Numeral.decimal?,
    hd, if_pos h]

/-- **So is any text with the case folding of its scientific text.** -/
theorem ofText?_of_fold_eq {d : Decimal} (h : d.inRange = true) {s : String}
    (hs : fold s = fold d.text) : ofText? s = some d :=
  (ofText?_eq_of_fold_eq hs).trans (ofText?_text h)

end Decimal

end Verdict
