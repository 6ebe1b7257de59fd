/-
# The value of a decimal

A decimal stands for the number `± coefficient · 10 ^ exponent`, here as a rational number.  The
order of decimals, which expands no power of ten beyond the digits of a coefficient, is the order of
these numbers (`Decimal.order_eq_compare`), so decimals of one value are those that no comparison
tells apart.
-/

import Mathlib.Algebra.Order.Field.Power
import Mathlib.Algebra.Order.Field.Rat
import Mathlib.Tactic.Ring
import Verdict.Decimal.Basic

namespace Verdict
namespace Decimal

/-- The number that a decimal stands for, without its sign. -/
def magnitude (d : Decimal) : ℚ := d.coefficient * 10 ^ d.exponent

/-- The number that a decimal stands for. -/
def value (d : Decimal) : ℚ := if d.negative then -d.magnitude else d.magnitude

variable (a b : Decimal)

theorem ten_zpow_pos (e : Int) : (0 : ℚ) < 10 ^ e := zpow_pos (by norm_num) e

theorem isZero_iff : a.isZero = true ↔ a.coefficient = 0 := beq_iff_eq

theorem magnitude_nonneg : 0 ≤ a.magnitude :=
  mul_nonneg (Nat.cast_nonneg _) (ten_zpow_pos _).le

variable {a b}

theorem magnitude_eq_zero (h : a.isZero = true) : a.magnitude = 0 := by
  rw [magnitude, (isZero_iff a).mp h, Nat.cast_zero, zero_mul]

theorem magnitude_pos (h : a.isZero = false) : 0 < a.magnitude := by
  have hc : 0 < a.coefficient := by
    have := mt (isZero_iff a).mpr (Bool.eq_false_iff.mp h)
    omega
  exact mul_pos (Nat.cast_pos.mpr hc) (ten_zpow_pos _)

/-- The leading digit stands where the adjusted exponent says. -/
theorem zpow_adjusted_le (h : a.isZero = false) : 10 ^ a.adjusted ≤ a.magnitude := by
  have hpos := digitCount_pos a.coefficient
  have hdigits : 10 ^ (digitCount a.coefficient - 1) ≤ a.coefficient := by
    by_cases hone : digitCount a.coefficient = 1
    · have := mt (isZero_iff a).mpr (Bool.eq_false_iff.mp h)
      rw [hone]
      omega
    · by_contra hlt
      have := (digitCount_le_iff a.coefficient (by omega)).mpr (not_le.mp hlt)
      omega
  have hsplit : a.adjusted = (digitCount a.coefficient - 1 : Nat) + a.exponent := by
    rw [adjusted]
    omega
  rw [hsplit, zpow_add₀ (by norm_num), zpow_natCast, magnitude]
  exact mul_le_mul_of_nonneg_right (by exact_mod_cast hdigits) (ten_zpow_pos _).le

/-- No digit stands before the leading one. -/
theorem magnitude_lt_zpow : a.magnitude < 10 ^ (a.adjusted + 1) := by
  have hdigits := (digitCount_le_iff a.coefficient (digitCount_pos _)).mp le_rfl
  have hsplit : a.adjusted + 1 = digitCount a.coefficient + a.exponent := by
    rw [adjusted]
    omega
  rw [hsplit, zpow_add₀ (by norm_num), zpow_natCast, magnitude]
  exact mul_lt_mul_of_pos_right (by exact_mod_cast hdigits) (ten_zpow_pos _)

/-- A magnitude whose leading digit stands lower is smaller. -/
theorem magnitude_lt_of_adjusted_lt (hb : b.isZero = false) (h : a.adjusted < b.adjusted) :
    a.magnitude < b.magnitude :=
  calc
    a.magnitude < 10 ^ (a.adjusted + 1) := magnitude_lt_zpow
    _ ≤ 10 ^ b.adjusted := zpow_le_zpow_right₀ (by norm_num) (by omega)
    _ ≤ b.magnitude := zpow_adjusted_le hb

/-- Scaling down to the lower of two exponents leaves an integer. -/
theorem magnitude_eq_scaled {e : Int} (h : e ≤ a.exponent) :
    a.magnitude = (a.coefficient * 10 ^ (a.exponent - e).toNat : Nat) * 10 ^ e := by
  have hsplit : a.exponent = ((a.exponent - e).toNat : Int) + e := by omega
  rw [magnitude, hsplit, zpow_add₀ (by norm_num), zpow_natCast, ← hsplit]
  push_cast
  ring

/-- Coefficients that are scaled to one exponent compare as the magnitudes do. -/
theorem compare_scaled :
    compare (a.coefficient * 10 ^ (a.exponent - b.exponent).toNat)
      (b.coefficient * 10 ^ (b.exponent - a.exponent).toNat) = compare a.magnitude b.magnitude := by
  have hmono : StrictMono fun n : ℕ => (n : ℚ) * 10 ^ min a.exponent b.exponent := fun m n h =>
    mul_lt_mul_of_pos_right (Nat.cast_lt.mpr h) (ten_zpow_pos _)
  have ha : (a.exponent - min a.exponent b.exponent).toNat = (a.exponent - b.exponent).toNat := by
    omega
  have hb : (b.exponent - min a.exponent b.exponent).toNat = (b.exponent - a.exponent).toNat := by
    omega
  rw [magnitude_eq_scaled (min_le_left a.exponent b.exponent),
    magnitude_eq_scaled (min_le_right a.exponent b.exponent), ha, hb, ← cmp_eq_compare,
    ← cmp_eq_compare]
  exact (hmono.cmp_map_eq _ _).symm

/-- Magnitudes other than zero compare as the numbers do. -/
theorem compareMagnitude_eq (ha : a.isZero = false) (hb : b.isZero = false) :
    compareMagnitude a b = compare a.magnitude b.magnitude := by
  unfold compareMagnitude
  simp only [ha, hb, Bool.or_self, Bool.false_eq_true, if_false]
  split
  · exact compare_scaled
  · next ho =>
    cases hadj : compare a.adjusted b.adjusted with
    | lt =>
        have hlt := magnitude_lt_of_adjusted_lt hb (compare_lt_iff_lt.mp hadj)
        exact (compare_lt_iff_lt.mpr hlt).symm
    | eq => exact absurd hadj ho
    | gt =>
        have hgt := magnitude_lt_of_adjusted_lt ha (compare_gt_iff_gt.mp hadj)
        exact (compare_gt_iff_gt.mpr hgt).symm

theorem value_of_positive (h : a.negative = false) : a.value = a.magnitude := by rw [value, h]; rfl

theorem value_of_negative (h : a.negative = true) : a.value = -a.magnitude := if_pos h

theorem value_eq_zero (h : a.isZero = true) : a.value = 0 := by
  rw [value, magnitude_eq_zero h, neg_zero, ite_self]

theorem value_pos (h : a.isZero = false) (hn : a.negative = false) : 0 < a.value := by
  rw [value_of_positive hn]
  exact magnitude_pos h

theorem value_neg (h : a.isZero = false) (hn : a.negative = true) : a.value < 0 := by
  rw [value_of_negative hn]
  exact neg_lt_zero.mpr (magnitude_pos h)

/-- **Decimals are ordered as the numbers that they stand for.** -/
theorem order_eq_compare (a b : Decimal) : a.order b = compare a.value b.value := by
  have negatives : compare (-a.magnitude) (-b.magnitude) = compare b.magnitude a.magnitude := by
    rw [← cmp_eq_compare, ← cmp_eq_compare]
    exact StrictAnti.cmp_map_eq (fun _ _ => neg_lt_neg) _ _
  unfold order
  cases ha : a.isZero with
  | true =>
      rw [value_eq_zero ha]
      cases hb : b.isZero with
      | true => exact (compare_eq_iff_eq.mpr (value_eq_zero hb).symm).symm
      | false =>
          cases hn : b.negative with
          | true => exact (compare_gt_iff_gt.mpr (value_neg hb hn)).symm
          | false => exact (compare_lt_iff_lt.mpr (value_pos hb hn)).symm
  | false =>
      cases hb : b.isZero with
      | true =>
          rw [value_eq_zero hb]
          cases hn : a.negative with
          | true => exact (compare_lt_iff_lt.mpr (value_neg ha hn)).symm
          | false => exact (compare_gt_iff_gt.mpr (value_pos ha hn)).symm
      | false =>
          cases hna : a.negative <;> cases hnb : b.negative
          · rw [value_of_positive hna, value_of_positive hnb]
            exact compareMagnitude_eq ha hb
          · exact (compare_gt_iff_gt.mpr ((value_neg hb hnb).trans (value_pos ha hna))).symm
          · exact (compare_lt_iff_lt.mpr ((value_neg ha hna).trans (value_pos hb hnb))).symm
          · rw [value_of_negative hna, value_of_negative hnb, negatives]
            exact compareMagnitude_eq hb ha

theorem sameValue_iff {a b : Decimal} : a.sameValue b = true ↔ a.value = b.value := by
  rw [sameValue, order_eq_compare, beq_iff_eq, compare_eq_iff_eq]

theorem isZero_iff_value {a : Decimal} : a.isZero = true ↔ a.value = 0 := by
  refine ⟨value_eq_zero, fun h => ?_⟩
  by_contra hz
  have hz := Bool.eq_false_iff.mpr hz
  cases hn : a.negative with
  | true => exact (value_neg hz hn).ne h
  | false => exact (value_pos hz hn).ne' h

end Decimal
end Verdict
