/-
# Equality between values

Equality compares truth values, or else numbers, or else texts, each where both sides have them.  This
separates two families of values.

| family | its values | equal are |
| --- | --- | --- |
| with a boolean reading | truth values, numbers, words such as `yes` | those of one reading |
| without one | null, all other texts | those of one key (`Content.key`) |

The key of a text is the number that it writes, or else its case folding.  No two texts of one folding
write different numbers, so the stage that compares numbers and the stage that compares texts never
disagree, and equality is an equivalence relation in each family (`equality_within_families`).
-/

import Verdict.Proofs.EchoedComparison

namespace Verdict

open Text

namespace Content

variable {a b : Content}

/-! ### Without a boolean reading -/

/-- Null and the texts that are no words for a truth value are what has no boolean reading. -/
theorem boolean?_eq_none_iff :
    a.boolean? = none ↔ a = .null ∨ ∃ s, a = .string s ∧ wordReading? s = none := by
  cases a <;> simp [boolean?]

/-- What tells a content without a boolean reading from the others: nothing for null, and for a text
the number that it writes, or else its case folding. -/
def key : Content → Option (ℚ ⊕ String)
  | .string s => some ((Decimal.ofText? s).elim (.inr (fold s)) fun x => .inl x.value)
  | _ => none

/-- **Texts are equal if they have one key:** where only one of them writes a number, their foldings
differ as well. -/
theorem equal_string_iff {s t : String} (hs : wordReading? s = none) :
    equal (.string s) (.string t) = true ↔ key (.string s) = key (.string t) := by
  rw [equal_eq (by simp) (by simp)]
  simp only [boolean?, number?, hs, key, text, Option.some.injEq]
  cases hx : Decimal.ofText? s with
  | some x =>
      cases hy : Decimal.ofText? t with
      | some y => simp [Decimal.sameValue_iff]
      | none =>
          have hfold : fold s ≠ fold t := fun h => by
            cases hx.symm.trans ((Decimal.ofText?_eq_of_fold_eq h).trans hy)
          simpa using hfold
  | none =>
      cases hy : Decimal.ofText? t with
      | some y =>
          have hfold : fold s ≠ fold t := fun h => by
            cases hy.symm.trans ((Decimal.ofText?_eq_of_fold_eq h).symm.trans hx)
          simpa using hfold
      | none => simp

theorem equal_iff_key_eq (ha : a.boolean? = none) (hb : b.boolean? = none) :
    a.equal b = true ↔ a.key = b.key := by
  rcases boolean?_eq_none_iff.mp ha with rfl | ⟨s, rfl, hs⟩
  · rcases boolean?_eq_none_iff.mp hb with rfl | ⟨t, rfl, -⟩ <;> simp [equal, key]
  · rcases boolean?_eq_none_iff.mp hb with rfl | ⟨t, rfl, -⟩
    · simp [equal, key]
    · exact equal_string_iff hs

/-! ### All values -/

theorem equal_self (a : Content) : a.equal a = true := by
  cases ha : a.boolean? with
  | some x => rw [equal_of_boolean? ha ha, beq_self_eq_true]
  | none => exact (equal_iff_key_eq ha ha).mpr rfl

/-- Null has the content null, and no other value does. -/
theorem of_eq_null_iff {v : Value} : Content.of v = .null ↔ v = .null := by
  cases v with
  | float x => simp only [Content.of]; split <;> simp
  | decimal d => cases d <;> simp [Content.of]
  | _ => simp [Content.of]

theorem equal_null_iff : equal .null a = true ↔ a = .null := by
  cases a <;> simp [equal]

/-! ### Numbers of one value -/

/-- **Contents that stand for one number are equal,** whichever stage decides. -/
theorem equal_of_value?_eq {q : ℚ} (ha : a.value? = some q) (hb : b.value? = some q) :
    a.equal b = true := by
  obtain ⟨x, hx, rfl⟩ := Option.map_eq_some_iff.mp ha
  obtain ⟨y, hy, hvalue⟩ := Option.map_eq_some_iff.mp hb
  have hnull {c : Content} {z : Decimal} (hz : c.number? = some z) : c ≠ .null := by
    rintro rfl
    cases hz
  cases hra : a.boolean? with
  | some r =>
      cases hrb : b.boolean? with
      | some r' =>
          rw [equal_of_boolean? hra hrb, boolean?_of_number? hx hra, boolean?_of_number? hy hrb,
            isZero_of_value_eq hvalue, beq_self_eq_true]
      | none =>
          rw [equal_eq (hnull hx) (hnull hy), hra, hrb, hx, hy]
          exact Decimal.sameValue_iff.mpr hvalue.symm
  | none =>
      rw [equal_eq (hnull hx) (hnull hy), hra, hx, hy]
      exact Decimal.sameValue_iff.mpr hvalue.symm

end Content

/-- A relation that says of two things that they agree in something is an equivalence relation. -/
theorem equivalence_of_agreement {α β : Type} {r : α → α → Prop} {f : α → β}
    (h : ∀ a b, r a b ↔ f a = f b) : Equivalence r where
  refl a := (h a a).mpr rfl
  symm hab := (h _ _).mpr ((h _ _).mp hab).symm
  trans hab hbc := (h _ _).mpr (((h _ _).mp hab).trans ((h _ _).mp hbc))

/-- **Equality is an equivalence relation in each of its families.**

* Every value equals itself, equality goes both ways, and null equals null alone.
* Values with a boolean reading are equal exactly if their readings are; each is equal to one of the
  two truth values and to no more, so that these are all the classes.
* Without a boolean reading are null and the texts that are no words for a truth value.  Equality is
  an equivalence relation among these as well, although it compares some of the texts as numbers and
  the others by their foldings. -/
theorem equality_within_families :
    (∀ v : Value, v.equal v = true) ∧ (∀ v w : Value, v.equal w = w.equal v) ∧
      (∀ v : Value, Value.null.equal v = true ↔ v = .null) ∧
      Equivalence (fun v w : {v : Value // (Content.of v).boolean? ≠ none} =>
        v.1.equal w.1 = true) ∧
      (∀ v w : Value, ∀ r q, (Content.of v).boolean? = some r → (Content.of w).boolean? = some q →
        (v.equal w = true ↔ r = q)) ∧
      (∀ v : Value, (Content.of v).boolean? ≠ none → ∃! r : Bool, v.equal (.bool r) = true) ∧
      (∀ v : Value, (Content.of v).boolean? = none ↔
        v = .null ∨ ∃ s, Content.of v = .string s ∧ Content.wordReading? s = none) ∧
      Equivalence fun v w : {v : Value // (Content.of v).boolean? = none} =>
        v.1.equal w.1 = true := by
  have hreadings {v w : Value} {r q : Bool} (hv : (Content.of v).boolean? = some r)
      (hw : (Content.of w).boolean? = some q) : v.equal w = true ↔ r = q := by
    rw [Value.equal, Content.equal_of_boolean? hv hw, beq_iff_eq]
  refine ⟨fun v => Content.equal_self _, fun v w => Content.equal_comm _ _, fun v => ?_, ?_,
    fun v w r q => hreadings, fun v hv => ?_, fun v => ?_, ?_⟩
  · exact Content.equal_null_iff.trans Content.of_eq_null_iff
  · refine equivalence_of_agreement (f := fun v => (Content.of v.1).boolean?) fun v w => ?_
    obtain ⟨r, hr⟩ := Option.ne_none_iff_exists'.mp v.2
    obtain ⟨q, hq⟩ := Option.ne_none_iff_exists'.mp w.2
    rw [hreadings hr hq, hr, hq, Option.some.injEq]
  · obtain ⟨r, hr⟩ := Option.ne_none_iff_exists'.mp hv
    exact ⟨r, (hreadings hr rfl).mpr rfl, fun q hq => ((hreadings hr rfl).mp hq).symm⟩
  · rw [Content.boolean?_eq_none_iff, Content.of_eq_null_iff]
  · exact equivalence_of_agreement (f := fun v => (Content.of v.1).key) fun v w =>
      Content.equal_iff_key_eq v.2 w.2

-- The families cannot be joined: a number stands between a truth value and a text that are not equal.
example : Value.equal (.bool true) (.int 2) = true ∧ Value.equal (.int 2) (.text "2") = true ∧
    Value.equal (.bool true) (.text "2") = false := by decide +kernel

namespace Sample

/-- Two texts that are equal as numbers and a third one that is equal to the second: so the first is
equal to the third.  A word and a number that both read as true are equal. -/
theorem equality_within_families_spelled :
    (Value.text "1,000").equal (.text "1e3") = true ∧ (Value.text " YES ").equal (.int 25) = true := by
  obtain ⟨-, -, -, -, hreadings, -, -, hplain⟩ := equality_within_families
  have hnone : ∀ s ∈ ["1,000", " 1000.0", "1e3"], (Content.of (.text s)).boolean? = none := by
    decide +kernel
  rw [List.forall_mem_cons, List.forall_mem_cons, List.forall_mem_singleton] at hnone
  obtain ⟨hgrouped, hpadded, hmarked⟩ := hnone
  have hfirst : (Value.text "1,000").equal (.text " 1000.0") = true := by decide +kernel
  have hsecond : (Value.text " 1000.0").equal (.text "1e3") = true := by decide +kernel
  refine ⟨?_, ?_⟩
  · exact hplain.trans (x := ⟨_, hgrouped⟩) (y := ⟨_, hpadded⟩) (z := ⟨_, hmarked⟩) hfirst hsecond
  · exact (hreadings (.text " YES ") (.int 25) true true (by decide +kernel) rfl).mpr rfl

end Sample

end Verdict
