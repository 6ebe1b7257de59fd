/-
# Comparisons of numbers

An ordering comparison holds if both sides stand for numbers and these are so related as rational
numbers, with all their digits and whatever their exponents.

| comparison | relates numbers | where a side stands for none |
| --- | --- | --- |
| `>=`, `<=`, `>`, `<` | as they are ordered | fails |
| `=` | if they are one number | asks for truth values, or compares texts |
| `!=` | if `=` does not | holds if `=` fails |

So the six comparisons of a token with a literal fit together as those of two numbers do
(`comparisons_coherent`): `=` asks for truth values before numbers, but holds wherever `>=` and `<=`
both do (`Content.equal_of_value?_eq`).
-/

import Verdict.Proofs.Equality

namespace Verdict

namespace Comparison

/-- How a comparison relates two numbers. -/
def Relates : Comparison → ℚ → ℚ → Prop
  | .equals, x, y => x = y
  | .notEquals, x, y => x ≠ y
  | .greaterOrEqual, x, y => y ≤ x
  | .lessOrEqual, x, y => x ≤ y
  | .greaterThan, x, y => y < x
  | .lessThan, x, y => x < y

theorem accepts_compare_iff (op : Comparison) (x y : ℚ) :
    op.accepts (compare x y) = true ↔ op.Relates x y := by
  rcases lt_trichotomy x y with h | rfl | h
  · rw [compare_lt_iff_lt.mpr h]
    cases op <;> simp [accepts, Relates, h, h.le, h.ne, h.not_ge, h.not_gt]
  · rw [compare_eq_iff_eq.mpr rfl]
    cases op <;> simp [accepts, Relates]
  · rw [compare_gt_iff_gt.mpr h]
    cases op <;> simp [accepts, Relates, h, h.le, h.ne', h.not_ge, h.not_gt]

section
variable (op : Comparison) {a e : Content}

/-- **An ordering holds** if both contents stand for numbers that it relates. -/
theorem holds_iff_relates (h : op.IsOrdering) :
    op.holds a e = true ↔ ∃ x y, a.value? = some x ∧ e.value? = some y ∧ op.Relates x y := by
  rw [holds_of_isOrdering h]
  cases a.value? with
  | none => simp
  | some x =>
      cases e.value? with
      | none => simp
      | some y => simpa using accepts_compare_iff op x y

theorem holds_of_values {x y : ℚ} (h : op.IsOrdering) (ha : a.value? = some x)
    (he : e.value? = some y) : op.holds a e = true ↔ op.Relates x y := by
  simp [holds_iff_relates op h, ha, he]

end

end Comparison

/-- Whether a condition compares the fact under a token with a literal. -/
def Condition.Compares (c : Condition) (op : Comparison) (token : String) (l : Literal) : Prop :=
  c.token = token ∧ c.value = l ∧ c.comparison? = some op

theorem Condition.Compares.holds_eq {c : Condition} {op : Comparison} {token : String} {l : Literal}
    (h : c.Compares op token l) (facts : FactTable) :
    c.holds facts = op.holds (facts.lookup token).content (Content.of l.toValue) := by
  obtain ⟨rfl, rfl, hop⟩ := h
  rw [holds, accepts, hop]

section
variable {a e : Content} {x y : ℚ}

/-- The four orderings of two numbers. -/
theorem Comparison.holds_of_numbers (ha : a.value? = some x) (he : e.value? = some y) :
    (lessThan.holds a e = true ↔ x < y) ∧ (greaterThan.holds a e = true ↔ y < x) ∧
      (greaterOrEqual.holds a e = true ↔ y ≤ x) ∧ (lessOrEqual.holds a e = true ↔ x ≤ y) :=
  ⟨holds_of_values .lessThan trivial ha he, holds_of_values .greaterThan trivial ha he,
    holds_of_values .greaterOrEqual trivial ha he, holds_of_values .lessOrEqual trivial ha he⟩

/-- Two numbers are in exactly one of three orders. -/
theorem Comparison.count_orders (ha : a.value? = some x) (he : e.value? = some y) :
    [lessThan.holds a e, greaterThan.holds a e,
      greaterOrEqual.holds a e && lessOrEqual.holds a e].count true = 1 := by
  obtain ⟨hlt, hgt, hge, hle⟩ := holds_of_numbers ha he
  rcases lt_trichotomy x y with h | rfl | h
  · rw [hlt.mpr h, Bool.eq_false_iff.mpr (mt hgt.mp h.not_gt), hle.mpr h.le,
      Bool.eq_false_iff.mpr (mt hge.mp h.not_ge)]
    rfl
  · rw [hge.mpr le_rfl, hle.mpr le_rfl, Bool.eq_false_iff.mpr (mt hlt.mp (lt_irrefl x)),
      Bool.eq_false_iff.mpr (mt hgt.mp (lt_irrefl x))]
    rfl
  · rw [hgt.mpr h, Bool.eq_false_iff.mpr (mt hlt.mp h.not_gt), hge.mpr h.le,
      Bool.eq_false_iff.mpr (mt hle.mp h.not_ge)]
    rfl

/-- Being less is the opposite of being at least, and being more that of being at most. -/
theorem Comparison.opposites (ha : a.value? = some x) (he : e.value? = some y) :
    lessThan.holds a e = !greaterOrEqual.holds a e ∧
      greaterThan.holds a e = !lessOrEqual.holds a e := by
  obtain ⟨hlt, hgt, hge, hle⟩ := holds_of_numbers ha he
  have hnot {p q : Bool} (h : p = true ↔ ¬ q = true) : p = !q := by
    rw [Bool.eq_iff_iff, h, Bool.not_eq_true, Bool.not_eq_true']
  exact ⟨hnot (by rw [hlt, hge, not_le]), hnot (by rw [hgt, hle, not_le])⟩

/-- What is at least and at most something is equal to it. -/
theorem Content.equal_of_bounds (hge : Comparison.greaterOrEqual.holds a e = true)
    (hle : Comparison.lessOrEqual.holds a e = true) : a.equal e = true := by
  obtain ⟨x, y, hx, hy, hyx⟩ := (Comparison.holds_iff_relates .greaterOrEqual trivial).mp hge
  obtain ⟨-, -, -, hxy⟩ := Comparison.holds_of_numbers hx hy
  obtain rfl : x = y := le_antisymm (hxy.mp hle) hyx
  exact equal_of_value?_eq hx hy

end

/-- **Comparisons are exact, and fit together.**  Let there be six conditions on one token and one
literal, one for each comparison, however their operators spell it.  Whatever the fact under the token:

* an ordering holds exactly if the fact and the literal both have a number reading and it relates the
  rational numbers that these two decimals stand for;
* where both have one, exactly one of `<`, `>`, and `>=` with `<=` holds, `<` holds if `>=` fails, and
  `>` if `<=` fails;
* where one has none, all four orderings fail;
* where `>=` and `<=` both hold, `=` holds and `!=` fails, although `=` asks for truth values first;
* `!=` holds exactly if `=` fails. -/
theorem comparisons_coherent {token : String} {l : Literal} {c : Comparison → Condition}
    (h : ∀ op, (c op).Compares op token l) (facts : FactTable) :
    let actual := (facts.lookup token).content.number?
    let expected := (Content.of l.toValue).number?
    let passes (op : Comparison) := (c op).holds facts
    (∀ op : Comparison, op.IsOrdering → (passes op = true ↔
        ∃ x y, actual = some x ∧ expected = some y ∧ op.Relates x.value y.value)) ∧
      (actual.isSome = true → expected.isSome = true →
        [passes .lessThan, passes .greaterThan,
            passes .greaterOrEqual && passes .lessOrEqual].count true = 1 ∧
          passes .lessThan = !passes .greaterOrEqual ∧
          passes .greaterThan = !passes .lessOrEqual) ∧
      (actual = none ∨ expected = none →
        ∀ op : Comparison, op.IsOrdering → passes op = false) ∧
      (passes .greaterOrEqual = true → passes .lessOrEqual = true →
        passes .equals = true ∧ passes .notEquals = false) ∧
      passes .notEquals = !passes .equals := by
  intro actual expected passes
  have hpasses (op : Comparison) : passes op = op.holds (facts.lookup token).content
      (Content.of l.toValue) := (h op).holds_eq facts
  have hordering (op : Comparison) (ho : op.IsOrdering) : passes op = true ↔
      ∃ x y, actual = some x ∧ expected = some y ∧ op.Relates x.value y.value := by
    rw [hpasses, Comparison.holds_iff_relates op ho]
    simp [Content.value?, Option.map_eq_some_iff, actual, expected]
  have hnot : passes .notEquals = !passes .equals := by
    rw [hpasses, hpasses]
    rfl
  refine ⟨hordering, fun ha he => ?_, fun hnone op ho => ?_, fun hge hle => ?_, hnot⟩
  · obtain ⟨x, hx⟩ := Option.isSome_iff_exists.mp ha
    obtain ⟨y, hy⟩ := Option.isSome_iff_exists.mp he
    have hx : (facts.lookup token).content.value? = some x.value := congrArg (Option.map _) hx
    have hy : (Content.of l.toValue).value? = some y.value := congrArg (Option.map _) hy
    simp only [hpasses]
    exact ⟨Comparison.count_orders hx hy, Comparison.opposites hx hy⟩
  · rw [Bool.eq_false_iff]
    intro hpass
    obtain ⟨x, y, hx, hy, -⟩ := (hordering op ho).mp hpass
    rcases hnone with hnone | hnone
    · cases hnone.symm.trans hx
    · cases hnone.symm.trans hy
  · rw [hpasses] at hge hle
    have hequal : passes .equals = true := (hpasses _).trans (Content.equal_of_bounds hge hle)
    exact ⟨hequal, by rw [hnot, hequal]; rfl⟩

namespace Sample

/-- Six conditions on a balance, by their symbols. -/
def onBalance (l : Literal) (op : Comparison) : Condition := ⟨"", "Balance", op.symbol, l⟩

theorem compares_onBalance (l : Literal) (op : Comparison) :
    (onBalance l op).Compares op "Balance" l := by
  have hnamed : ∀ op ∈ Comparison.values, Comparison.ofText? op.symbol = some op := by decide +kernel
  exact ⟨rfl, rfl, hnamed op (by cases op <;> decide)⟩

/-- A balance. -/
def balance (v : Value) : FactTable := FactTable.ofFields [("balance", v)]

/-- The hypothesis of `comparisons_coherent` is satisfiable.  A number with the largest exponent that
there is exceeds the text of a smaller one, and a text with groups is the same number as a decimal
with an exponent. -/
theorem comparisons_coherent_balance :
    let least := onBalance (.decimal ⟨false, 1, 999999999999999999⟩)
    let even := onBalance (.decimal ⟨false, 1, 3⟩)
    ((least .greaterOrEqual).holds (balance (.text "9.99E+999999999999999998")) = false ∧
        (least .lessThan).holds (balance (.text "9.99E+999999999999999998")) = true) ∧
      (even .equals).holds (balance (.text " 1,000.00")) = true ∧
      (even .notEquals).holds (balance (.text " 1,000.00")) = false := by
  intro least even
  have hless : (least .lessThan).holds (balance (.text "9.99E+999999999999999998")) = true := by
    decide +kernel
  obtain ⟨-, hnumbers, -⟩ :=
    comparisons_coherent (compares_onBalance (.decimal ⟨false, 1, 999999999999999999⟩))
      (balance (.text "9.99E+999999999999999998"))
  obtain ⟨-, hopposite, -⟩ := hnumbers (by decide +kernel) rfl
  obtain ⟨-, -, -, hbounds, -⟩ :=
    comparisons_coherent (compares_onBalance (.decimal ⟨false, 1, 3⟩))
      (balance (.text " 1,000.00"))
  refine ⟨⟨?_, hless⟩, hbounds (by decide +kernel) (by decide +kernel)⟩
  have hnot := hopposite.symm.trans hless
  simpa using hnot

end Sample

end Verdict
