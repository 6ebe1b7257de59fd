/-
# Numbers that decimals hold

A finite binary64 number is in the range of decimals, far from its ends: its shortest decimal has
few digits, and none of them stands high or low (`Binary64.inRange_toDecimal`).
-/

import Verdict.Binary64.Shortest

namespace Verdict

/-! ### How many digits a number has -/

theorem lt_pow_digitCount (n : Nat) : n < 10 ^ digitCount n :=
  (digitCount_le_iff n (digitCount_pos n)).mp (Nat.le_refl _)

theorem digitCount_mono {m n : Nat} (h : m ≤ n) : digitCount m ≤ digitCount n :=
  (digitCount_le_iff m (digitCount_pos n)).mpr (Nat.lt_of_le_of_lt h (lt_pow_digitCount n))

theorem digitCount_two_pow_le (k : Nat) : digitCount (2 ^ k) ≤ k + 1 := by
  rw [digitCount_le_iff _ (Nat.succ_pos k)]
  calc
    2 ^ k ≤ 10 ^ k := Nat.pow_le_pow_left (by decide) k
    _ < 10 ^ (k + 1) := Nat.pow_lt_pow_right (by decide) (Nat.lt_succ_self k)

theorem digitCount_mul_pow_le (n k : Nat) : digitCount (n * 10 ^ k) ≤ digitCount n + k := by
  have hpos := digitCount_pos n
  rw [digitCount_le_iff _ (by omega), Nat.pow_add]
  exact Nat.mul_lt_mul_of_pos_right (lt_pow_digitCount n) (Nat.pow_pos (by decide))

theorem digitCount_succ_le (n : Nat) : digitCount (n + 1) ≤ digitCount n + 1 := by
  have hlt := lt_pow_digitCount n
  rw [digitCount_le_iff _ (Nat.succ_pos _), Nat.pow_succ]
  omega

/-- A decimal of few digits that do not stand high or low is in range. -/
theorem Decimal.inRange_of_digitCount_le {d : Decimal} {k : Nat} (hc : digitCount d.coefficient ≤ k)
    (hlow : minExponent ≤ d.exponent) (hhigh : d.exponent + k ≤ maxAdjusted + 1) :
    d.inRange = true := by
  have hadjusted : d.adjusted ≤ maxAdjusted := by
    rw [adjusted]
    omega
  rw [inRange, Bool.and_eq_true, decide_eq_true_eq, decide_eq_true_eq]
  exact ⟨hadjusted, hlow⟩

namespace Binary64

variable {x : Binary64}

/-! ### A finite number as a fraction -/

theorem scale_le (h : x.isFinite = true) : x.scale ≤ 971 := by
  rw [isFinite, infinityMagnitude, decide_eq_true_eq] at h
  unfold scale
  split <;> omega

theorem le_scale (x : Binary64) : -1074 ≤ x.scale := by
  unfold scale
  split <;> omega

theorem significand_lt (x : Binary64) : x.significand < 2 ^ 53 := by
  unfold significand
  split <;> omega

theorem digitCount_numerator_le (h : x.isFinite = true) : digitCount x.numerator ≤ 1025 := by
  have hscale := scale_le h
  have hle : x.numerator ≤ 2 ^ (53 + x.scale.toNat) := by
    rw [numerator, Nat.pow_add]
    exact Nat.mul_le_mul_right _ (Nat.le_of_lt x.significand_lt)
  calc
    digitCount x.numerator ≤ digitCount (2 ^ (53 + x.scale.toNat)) := digitCount_mono hle
    _ ≤ 53 + x.scale.toNat + 1 := digitCount_two_pow_le _
    _ ≤ 1025 := by omega

theorem digitCount_denominator_le (x : Binary64) : digitCount x.denominator ≤ 1075 := by
  have hscale := x.le_scale
  calc
    digitCount x.denominator ≤ (-x.scale).toNat + 1 := digitCount_two_pow_le _
    _ ≤ 1075 := by omega

/-! ### The search for the shortest decimal -/

theorem leadingExponent_bounds (h : x.isFinite = true) :
    -1075 ≤ leadingExponent x.numerator x.denominator ∧
      leadingExponent x.numerator x.denominator ≤ 1024 := by
  have hn := digitCount_numerator_le h
  have hd := x.digitCount_denominator_le
  have hn' := digitCount_pos x.numerator
  have hd' := digitCount_pos x.denominator
  unfold leadingExponent
  dsimp only
  split <;> omega

theorem neighbour?_le {p : Int} {c : Nat} (h : neighbour? x p = some c) :
    c ≤ x.numerator * 10 ^ (-p).toNat + 1 := by
  have hbelow := Nat.div_le_self (x.numerator * 10 ^ (-p).toNat) (x.denominator * 10 ^ p.toNat)
  unfold neighbour? at h
  dsimp only at h
  split at h
  · obtain rfl := Option.some.inj h
    unfold roundDiv
    dsimp only
    split <;> omega
  · obtain rfl := Option.some.inj h
    omega
  · obtain rfl := Option.some.inj h
    omega
  · cases h

/-- Whatever grid the search ends with, there are few digits, and none stands high or low. -/
theorem searchFrom_bounds (h : x.isFinite = true) {leading : Int} (hlow : -1075 ≤ leading)
    (hhigh : leading ≤ 1024) (left digits : Nat) (hpos : 1 ≤ digits) (hsum : left + digits ≤ 18) :
    digitCount (searchFrom x leading left digits).1 ≤ 2117 ∧
      -1091 ≤ (searchFrom x leading left digits).2 ∧
      (searchFrom x leading left digits).2 ≤ 1024 := by
  have hn := digitCount_numerator_le h
  induction left generalizing digits with
  | zero =>
      rw [searchFrom]
      exact ⟨Nat.le_trans hn (by decide), by dsimp only; omega, by dsimp only; omega⟩
  | succ left ih =>
      unfold searchFrom
      dsimp only
      split
      · next c hc =>
        refine ⟨?_, by dsimp only; omega, by dsimp only; omega⟩
        calc
          digitCount c ≤ digitCount (x.numerator * 10 ^ (-(leading - digits + 1)).toNat + 1) :=
            digitCount_mono (neighbour?_le hc)
          _ ≤ digitCount (x.numerator * 10 ^ (-(leading - digits + 1)).toNat) + 1 :=
            digitCount_succ_le _
          _ ≤ digitCount x.numerator + (-(leading - digits + 1)).toNat + 1 :=
            Nat.add_le_add_right (digitCount_mul_pow_le ..) 1
          _ ≤ 2117 := by omega
      · exact ih (digits + 1) (by omega) (by omega)

theorem shortest_bounds (h : x.isFinite = true) :
    digitCount x.shortest.1 ≤ 2117 ∧ -1091 ≤ x.shortest.2 ∧ x.shortest.2 ≤ 1025 := by
  obtain ⟨hlow, hhigh⟩ := leadingExponent_bounds h
  obtain ⟨hc, hp, hp'⟩ := searchFrom_bounds h hlow hhigh 17 1 (by decide) (by decide)
  unfold shortest
  split
  · exact ⟨by decide +kernel, by decide, by decide⟩
  · dsimp only
    split
    · exact ⟨Nat.le_trans (digitCount_mono (Nat.div_le_self ..)) hc, by dsimp only; omega,
        by dsimp only; omega⟩
    · exact ⟨hc, hp, by omega⟩

/-- **A finite number is in the range of decimals.** -/
theorem inRange_toDecimal (h : x.isFinite = true) : x.toDecimal.inRange = true := by
  obtain ⟨hc, hlow, hhigh⟩ := shortest_bounds h
  unfold toDecimal
  dsimp only
  split
  · next hp =>
    simp only [isPositional, Bool.and_eq_true, decide_eq_true_eq] at hp
    have hpos := digitCount_pos x.shortest.1
    have hdigits := digitCount_mul_pow_le x.shortest.1 (x.shortest.2.toNat + 1)
    have hlimit : digitCount (x.shortest.1 * 10 ^ (x.shortest.2.toNat + 1)) ≤ 4000 := by omega
    exact Decimal.inRange_of_digitCount_le hlimit (by dsimp only; decide) (by dsimp only; decide)
  · apply Decimal.inRange_of_digitCount_le hc
    · dsimp only [Decimal.minExponent]
      omega
    · dsimp only [Decimal.maxAdjusted]
      omega

end Binary64

end Verdict
