/-
# Echoes of decimals

A decimal is echoed as an integer, as a binary64 number or as its scientific text, and keeps its value
(`Decimal.value?_echo`).  An echo that is a number stays in range; one that is a text is read as the
decimal itself.  Which of the three it is, and what each is bounded by, is `decimal_echo_exact`.
-/

import Mathlib.Data.Nat.Cast.Field
import Verdict.Proofs.NumberForms

namespace Verdict
namespace Decimal

variable {d : Decimal}

theorem value_ofInt (n : Int) : (ofInt n).value = n := by
  unfold value magnitude ofInt
  dsimp only
  rw [zpow_zero, mul_one]
  by_cases hn : n < 0
  · rw [if_pos (decide_eq_true hn), Nat.cast_natAbs, abs_of_neg hn]
    push_cast
    ring
  · rw [if_neg (by simpa using hn), Nat.cast_natAbs, abs_of_nonneg (not_lt.mp hn)]

/-- The digits of an integral decimal that stand before the point write its magnitude. -/
theorem magnitude_of_isIntegral (h : d.isIntegral = true) (hz : d.isZero = false) :
    d.magnitude = (if 0 ≤ d.exponent then d.coefficient * 10 ^ d.exponent.toNat
      else d.coefficient / 10 ^ (-d.exponent).toNat : Nat) := by
  split
  · next he =>
    rw [magnitude_eq_scaled he, Int.sub_zero, zpow_zero, mul_one]
  · next he =>
    simp only [isIntegral, hz, he, Bool.false_or, decide_false, Bool.and_eq_true, beq_iff_eq] at h
    have hne : ((10 ^ (-d.exponent).toNat : Nat) : ℚ) ≠ 0 :=
      Nat.cast_ne_zero.mpr (Nat.pow_pos (by decide)).ne'
    have hpow : (10 : ℚ) ^ d.exponent = ((10 ^ (-d.exponent).toNat : Nat) : ℚ)⁻¹ := by
      rw [Nat.cast_pow, ← zpow_natCast, ← zpow_neg]
      congr 1
      omega
    rw [magnitude, Nat.cast_div (Nat.dvd_of_mod_eq_zero h.2) hne, hpow, div_eq_mul_inv]

theorem value_toInt (h : d.isIntegral = true) : (d.toInt : ℚ) = d.value := by
  unfold toInt
  dsimp only
  cases hz : d.isZero with
  | true =>
      rw [value_eq_zero hz]
      simp
  | false =>
      have hm := magnitude_of_isIntegral h hz
      rw [if_neg Bool.false_ne_true]
      generalize (if 0 ≤ d.exponent then _ else _ : Nat) = m at hm ⊢
      cases hn : d.negative with
      | true =>
          rw [value_of_negative hn, hm, if_pos rfl]
          push_cast
          rfl
      | false =>
          rw [value_of_positive hn, hm, if_neg Bool.false_ne_true]
          push_cast
          rfl

theorem abs_value (d : Decimal) : |d.value| = d.magnitude := by
  have habs := abs_of_nonneg (magnitude_nonneg d)
  unfold value
  split
  · rw [abs_neg, habs]
  · exact habs

/-- **The integral decimals are those whose value is an integer:** digits behind the point that are all
zero do not count. -/
theorem isIntegral_iff : d.isIntegral = true ↔ ∃ n : ℤ, d.value = n := by
  refine ⟨fun h => ⟨d.toInt, (value_toInt h).symm⟩, fun ⟨n, hn⟩ => ?_⟩
  by_cases he : 0 ≤ d.exponent
  · simp [isIntegral, he]
  cases hz : d.isZero with
  | true => simp [isIntegral, hz]
  | false =>
      have hpow : (10 : ℚ) ^ d.exponent * 10 ^ (-d.exponent).toNat = 1 := by
        rw [← zpow_natCast, ← zpow_add₀ (by norm_num)]
        convert zpow_zero (10 : ℚ)
        omega
      have hscaled : d.coefficient = n.natAbs * 10 ^ (-d.exponent).toNat := by
        have hmagnitude : (n.natAbs : ℚ) = d.coefficient * 10 ^ d.exponent := by
          rw [Nat.cast_natAbs, Int.cast_abs, ← hn, abs_value, magnitude]
        have hvalue : ((n.natAbs * 10 ^ (-d.exponent).toNat : Nat) : ℚ) = d.coefficient := by
          rw [Nat.cast_mul, hmagnitude, Nat.cast_pow, mul_assoc]
          exact (congrArg _ hpow).trans (mul_one _)
        exact_mod_cast hvalue.symm
      have hpositive : 0 < n.natAbs := by
        have hne := mt (isZero_iff d).mpr (Bool.eq_false_iff.mp hz)
        rw [hscaled] at hne
        exact Nat.pos_of_ne_zero (left_ne_zero_of_mul hne)
      have hdigits : (-d.exponent).toNat < digitCount d.coefficient := by
        by_contra hle
        have hlt := (digitCount_le_iff _ (by omega)).mp (not_lt.mp hle)
        have hle := Nat.le_mul_of_pos_left (10 ^ (-d.exponent).toNat) hpositive
        omega
      have hmod : d.coefficient % 10 ^ (-d.exponent).toNat = 0 := by
        rw [hscaled]
        exact Nat.mul_mod_left ..
      have hreach : -d.exponent < digitCount d.coefficient := by omega
      simp [isIntegral, hreach, hmod]

/-- An integral decimal whose leading digit stands below `10 ^ k` is below it. -/
theorem natAbs_toInt_lt (h : d.isIntegral = true) {k : Nat} (hk : d.adjusted < k) :
    d.toInt.natAbs < 10 ^ k := by
  have hlt : (d.toInt.natAbs : ℚ) < 10 ^ k :=
    calc
      (d.toInt.natAbs : ℚ) = d.magnitude := by
        rw [Nat.cast_natAbs, Int.cast_abs, value_toInt h, abs_value]
      _ < 10 ^ (d.adjusted + 1) := magnitude_lt_zpow
      _ ≤ 10 ^ (k : Int) := zpow_le_zpow_right₀ (by norm_num) (by omega)
      _ = 10 ^ k := zpow_natCast _ _
  exact_mod_cast hlt

theorem inRange_ofInt_toInt (h : d.isIntegral = true) (hk : d.adjusted < integerEchoLimit) :
    (ofInt d.toInt).inRange = true :=
  inRange_ofInt ((natAbs_toInt_lt h hk).trans (Nat.pow_lt_pow_right (by decide) (by decide)))

/-- The kinds of an echo: the integer that the decimal is, if its leading digit stands low enough, and
otherwise a finite binary64 number of the same value or the scientific text. -/
theorem echo_kinds (d : Decimal) :
    (d.adjusted < integerEchoLimit ∧ d.isIntegral = true) ∧ d.echo = .int d.toInt ∨
      ¬ (d.adjusted < integerEchoLimit ∧ d.isIntegral = true) ∧
        ((∃ x : Binary64, d.echo = .float x ∧ x.isFinite = true ∧ x.toDecimal.value = d.value) ∨
          d.echo = .text d.text) := by
  rw [← decide_eq_true_eq (p := d.adjusted < integerEchoLimit), ← Bool.and_eq_true]
  unfold echo
  split
  · next hint => exact Or.inl ⟨hint, rfl⟩
  · next hint =>
    refine Or.inr ⟨hint, ?_⟩
    dsimp only
    split
    · next hx =>
      rw [Bool.and_eq_true] at hx
      exact Or.inl ⟨_, rfl, hx.1, sameValue_iff.mp hx.2⟩
    · exact Or.inr rfl

/-- **An echo is a number of the same value,** or else the scientific text. -/
theorem echo_cases (h : d.inRange = true) :
    (Content.number d).Alike (Content.of d.echo) ∨ d.echo = .text d.text := by
  rcases d.echo_kinds with ⟨⟨hlow, hint⟩, hecho⟩ | ⟨-, ⟨x, hecho, hfinite, hvalue⟩ | htext⟩
  · rw [hecho]
    exact Or.inl (Or.inr ⟨d, _, rfl, rfl, h, inRange_ofInt_toInt hint hlow,
      (value_toInt hint).symm.trans (value_ofInt _).symm⟩)
  · rw [hecho]
    exact Or.inl (Or.inr ⟨d, _, rfl, if_pos hfinite, h, Binary64.inRange_toDecimal hfinite, hvalue.symm⟩)
  · exact Or.inr htext

/-- **Echoing a decimal keeps its value.** -/
theorem value?_echo (h : d.inRange = true) : (Content.of d.echo).value? = some d.value := by
  rcases echo_cases h with ha | ht
  · exact (Content.value?_of_alike ha).symm
  · rw [ht, Content.of, Content.value?, Content.number?, ofText?_text h]
    rfl

/-- A decimal is echoed as an integer if it is one, and its leading digit stands low enough. -/
theorem exists_echo_eq_int_iff :
    (∃ n, d.echo = .int n) ↔ d.adjusted < integerEchoLimit ∧ ∃ n : ℤ, d.value = n := by
  rw [← isIntegral_iff]
  rcases d.echo_kinds with ⟨hint, hecho⟩ | ⟨hint, ⟨x, hecho, -⟩ | hecho⟩
  · exact ⟨fun _ => hint, fun _ => ⟨_, hecho⟩⟩
  · exact ⟨fun ⟨n, hn⟩ => Value.noConfusion (hecho.symm.trans hn), fun h => absurd h hint⟩
  · exact ⟨fun ⟨n, hn⟩ => Value.noConfusion (hecho.symm.trans hn), fun h => absurd h hint⟩

end Decimal

/-- **The echo of a decimal is exact.**  For every decimal in range, of however many digits and whatever
exponent:

* the echo has a number reading, which stands for the same rational number;
* the echo is an integer below `10 ^ 18`, a finite binary64 number, or the scientific text, which is
  read as the decimal itself;
* it is an integer exactly if the decimal's value is one and its leading digit stands below `10 ^ 18`. -/
theorem decimal_echo_exact {d : Decimal} (h : d.inRange = true) :
    let echo := (Value.decimal (.finite d)).echo
    (∃ y, (Content.of echo).number? = some y ∧ y.value = d.value) ∧
      ((∃ n : ℤ, echo = .int n ∧ |n| < 10 ^ 18) ∨
        (∃ x : Binary64, echo = .float x ∧ x.isFinite = true) ∨
          echo = .text d.text ∧ Decimal.ofText? d.text = some d) ∧
      ((∃ n, echo = .int n) ↔ d.adjusted < 18 ∧ ∃ n : ℤ, d.value = n) := by
  refine ⟨Option.map_eq_some_iff.mp (Decimal.value?_echo h), ?_, Decimal.exists_echo_eq_int_iff⟩
  rcases d.echo_kinds with ⟨⟨hlow, hint⟩, hecho⟩ | ⟨-, ⟨x, hecho, hfinite, -⟩ | hecho⟩
  · have hlt : (d.toInt.natAbs : ℤ) < (10 ^ 18 : Nat) := by
      exact_mod_cast Decimal.natAbs_toInt_lt hint (k := 18) hlow
    rw [Int.natCast_natAbs] at hlt
    exact Or.inl ⟨d.toInt, hecho, by exact_mod_cast hlt⟩
  · exact Or.inr (Or.inl ⟨x, hecho, hfinite⟩)
  · exact Or.inr (Or.inr ⟨hecho, Decimal.ofText?_text h⟩)

namespace Sample

/-- A decimal with twenty digits and the least exponent that there is. -/
def minute : Decimal := ⟨true, 12345678901234567890, -1999999999999999997⟩

/-- The hypothesis of `decimal_echo_exact` is satisfiable: the decimal's echo is its text, which is read
as the decimal itself. -/
theorem decimal_echo_exact_minute :
    minute.inRange = true ∧
      (Value.decimal (.finite minute)).echo = .text "-1.2345678901234567890E-1999999999999999978" ∧
      Decimal.ofText? "-1.2345678901234567890E-1999999999999999978" = some minute := by
  have hin : minute.inRange = true := by decide +kernel
  have htext : minute.text = "-1.2345678901234567890E-1999999999999999978" := by decide +kernel
  have hint : ¬(minute.adjusted < Decimal.integerEchoLimit && minute.isIntegral) = true := by
    decide +kernel
  have hfloat : ¬((Binary64.ofDecimal minute).isFinite &&
      (Binary64.ofDecimal minute).toDecimal.sameValue minute) = true := by decide +kernel
  have hecho : minute.echo = .text minute.text := by
    rw [Decimal.echo, if_neg hint]
    exact if_neg hfloat
  obtain ⟨-, ⟨n, hn, -⟩ | ⟨x, hx, -⟩ | ⟨-, hread⟩, -⟩ := decimal_echo_exact hin
  · exact Value.noConfusion (hecho.symm.trans hn)
  · exact Value.noConfusion (hecho.symm.trans hx)
  · rw [htext] at hecho hread
    exact ⟨hin, hecho, hread⟩

end Sample

end Verdict
