/-
# Comparing echoes

A trace shows values by their echoes, and comparing the echoes comes out like comparing the values,
with one exception.  A decimal that neither an integer nor a binary64 number stands for is echoed as
its text.  The decimal reads as true, like any number but zero, and the text does not: it is number
text, and none of the words for a truth value.

| value | read as a truth value | read as a number |
| --- | --- | --- |
| the decimal `1E+400` | true | `1E+400` |
| its echo, the text `1E+400` | | `1E+400` |

So where both sides read as true the values are equal, and the echoes are only if they are one number
(`Value.EchoesApart`).
-/

import Verdict.Proofs.DecimalEcho

namespace Verdict

open Text

/-! ### Words that are numbers -/

namespace Text

theorem foldChar_lowerChar (c : Char) : foldChar (lowerChar c) = foldChar c := by
  by_cases hc : c.toNat < 128
  · refine forall_ascii c hc ?_
    decide +kernel
  · rw [lowerChar_of_not_ascii hc]

theorem foldChars_lower (cs : List Char) : foldChars (lower cs) = foldChars cs := by
  rw [foldChars, foldChars, lower, List.flatMap_map]
  exact List.flatMap_congr fun c _ => foldChar_lowerChar c

end Text

/-- The number that a truth value is as a word. -/
def Decimal.ofBool (b : Bool) : Decimal := ⟨false, if b then 1 else 0, 0⟩

namespace Content

theorem mem_words_of_wordReading? {s : String} {b : Bool} (h : wordReading? s = some b) :
    String.ofList (lower (trim s.toList)) ∈ if b then trueWords else falseWords := by
  unfold wordReading? at h
  dsimp only at h
  split at h
  · next hw =>
    obtain rfl := Option.some.inj h
    exact List.contains_iff_mem.mp hw
  · split at h
    · next hw =>
      obtain rfl := Option.some.inj h
      exact List.contains_iff_mem.mp hw
    · cases h

/-- **A word for a truth value is number text** only if it is a one or a zero. -/
theorem ofText?_of_wordReading? {s : String} {b : Bool} (h : wordReading? s = some b) :
    Decimal.ofText? s = none ∨ Decimal.ofText? s = some (Decimal.ofBool b) := by
  have hwords : ∀ b, ∀ w ∈ if b then trueWords else falseWords,
      (Numeral.ofChars? w.toList).bind Numeral.decimal? = none ∨
        (Numeral.ofChars? w.toList).bind Numeral.decimal? = some (Decimal.ofBool b) := by
    decide +kernel
  have hread : Decimal.ofText? s =
      (Numeral.ofChars? (lower (trim s.toList))).bind Numeral.decimal? := by
    rw [Decimal.ofText?, ← Numeral.ofChars?_foldChars (lower _), foldChars_lower,
      Numeral.ofChars?_foldChars]
  rw [hread]
  simpa only [String.toList_ofList] using hwords b _ (mem_words_of_wordReading? h)

end Content

/-! ### Decimals that are echoed as texts -/

namespace Decimal

variable {d : Decimal}

/-- No zero is echoed as its text. -/
theorem isZero_of_echo_eq_text (h : d.echo = .text d.text) : d.isZero = false := by
  by_contra hz
  have hz := Bool.not_eq_false _ ▸ hz
  have hzeros : ∀ negative, (Binary64.zero negative).isFinite = true ∧
      (Binary64.zero negative).toDecimal.isZero = true := by decide +kernel
  obtain ⟨hfinite, hzero⟩ := hzeros d.negative
  have hbinary : Binary64.ofDecimal d = Binary64.zero d.negative := by
    rw [Binary64.ofDecimal, hz, Bool.true_or, if_pos rfl]
  have hsame : (Binary64.zero d.negative).toDecimal.sameValue d = true :=
    sameValue_iff.mpr ((value_eq_zero hzero).trans (value_eq_zero hz).symm)
  simp only [echo, hbinary, hfinite, hsame, Bool.and_self, if_true] at h
  split at h <;> cases h

/-- **The text of a decimal that is echoed as its text** is no word for a truth value. -/
theorem wordReading?_of_echo_eq_text (hd : d.inRange = true) (h : d.echo = .text d.text) :
    Content.wordReading? d.text = none := by
  cases hw : Content.wordReading? d.text with
  | none => rfl
  | some b =>
      have hinteger : (ofBool b).echo = .int (ofBool b).toInt :=
        if_pos (by cases b <;> decide +kernel)
      rcases Content.ofText?_of_wordReading? hw with hnone | hsome
      · cases hnone.symm.trans (ofText?_text hd)
      · obtain rfl := Option.some.inj (hsome.symm.trans (ofText?_text hd))
        cases hinteger.symm.trans h

end Decimal

namespace Content

variable {d : Decimal} {b : Content}

theorem ne_null_of_boolean? {r : Bool} (h : b.boolean? = some r) : b ≠ .null := by
  rintro rfl
  cases h

/-- The boolean reading of a number, however it is written, is whether it is not zero. -/
theorem boolean?_of_number? {x : Decimal} {r : Bool} (hx : b.number? = some x)
    (hr : b.boolean? = some r) : r = !x.isZero := by
  cases b with
  | number y =>
      obtain rfl := Option.some.inj hx
      exact (Option.some.inj hr).symm
  | string s =>
      rcases ofText?_of_wordReading? hr with hnone | hsome
      · cases hnone.symm.trans hx
      · obtain rfl := Option.some.inj (hsome.symm.trans hx)
        cases r <;> rfl
  | _ => cases hx

/-- Contents that have boolean readings are equal if these are. -/
theorem equal_of_boolean? {a : Content} {r q : Bool} (ha : a.boolean? = some r)
    (hb : b.boolean? = some q) : a.equal b = (r == q) := by
  rw [equal_eq (ne_null_of_boolean? ha) (ne_null_of_boolean? hb), ha, hb]

/-- A number is equal to what reads as the same truth value, and without one to the same number. -/
theorem equal_number (hd : d.inRange = true) (b : Content) :
    equal (.number d) b =
      match b.boolean? with
      | some c => (!d.isZero) == c
      | none => b.number?.any d.sameValue := by
  cases b with
  | string s => exact equal_number_string hd s
  | _ => rfl

theorem boolean?_of_alike {a b : Content} (h : a.Alike b) : a.boolean? = b.boolean? := by
  obtain rfl | ⟨x, y, rfl, rfl, -, -, hvalue⟩ := h
  · rfl
  · rw [boolean?, boolean?, isZero_of_value_eq hvalue]

/-- **The text of a decimal that is echoed as its text** is equal to the same number alone. -/
theorem equal_text (hd : d.inRange = true) (he : d.echo = .text d.text) (b : Content) :
    equal (.string d.text) b = b.number?.any d.sameValue := by
  have hw : (string d.text).boolean? = none := by
    rw [boolean?, Decimal.wordReading?_of_echo_eq_text hd he]
  have ht : (string d.text).number? = some d := by
    rw [number?, Decimal.ofText?_text hd]
  by_cases hb : b = .null
  · rw [hb]
    rfl
  rw [equal_eq (by simp) hb, hw, ht]
  dsimp only
  cases hn : b.number? with
  | some y => rfl
  | none =>
      have hnone : Decimal.ofText? b.text = none := by
        cases b with
        | null => exact absurd rfl hb
        | boolean c => cases c <;> decide +kernel
        | number y => cases hn
        | string s => exact hn
      have hfold : fold d.text ≠ fold b.text := fun h => by
        cases hnone.symm.trans (Decimal.ofText?_of_fold_eq hd h.symm)
      simpa [text] using hfold

theorem any_sameValue_iff : b.number?.any d.sameValue = true ↔ b.value? = some d.value := by
  rw [value?]
  cases b.number? with
  | none => simp
  | some y =>
      rw [Option.any_some, Decimal.sameValue_iff, Option.map_some, Option.some.injEq, eq_comm]

/-- So it is equal to what the decimal is equal to, but for what reads as true and is another number. -/
theorem equal_text_of (hd : d.inRange = true) (he : d.echo = .text d.text)
    (h : b.boolean? = some true → b.value? = some d.value) :
    equal (.string d.text) b = equal (.number d) b := by
  have hz := Decimal.isZero_of_echo_eq_text he
  rw [equal_text hd he, equal_number hd]
  cases hb : b.boolean? with
  | none => rfl
  | some c =>
      cases c with
      | true => simp [any_sameValue_iff.mpr (h hb), hz]
      | false =>
          have hne : b.number?.any d.sameValue = false := by
            rw [Option.any_eq_false]
            intro y hy
            rw [Bool.eq_false_iff, ne_eq, Decimal.sameValue_iff]
            intro hvalue
            have hzero : false = !y.isZero := boolean?_of_number? hy hb
            rw [← isZero_of_value_eq hvalue, hz] at hzero
            cases hzero
          simp [hne, hz]

end Content

/-! ### Values and their echoes -/

namespace Value

/-- Whether a value is a decimal that is echoed as its text. -/
def EchoedAsText (v : Value) : Prop :=
  ∃ d : Decimal, v = .decimal (.finite d) ∧ d.echo = .text d.text

/-- Whether two values are equal and their echoes are not: both read as true, they are not one number,
and one of them is echoed as its text. -/
structure EchoesApart (a e : Value) : Prop where
  spelt : a.EchoedAsText ∨ e.EchoedAsText
  left : (Content.of a).boolean? = some true
  right : (Content.of e).boolean? = some true
  differ : (Content.of a).value? ≠ (Content.of e).value?

variable {v a e : Value}

/-- Any other value is alike its echo. -/
theorem alike_echo (h : v.InRange) (hv : ¬ v.EchoedAsText) : v.Alike v.echo := by
  cases v with
  | decimal d =>
      cases d with
      | finite d =>
          rcases Decimal.echo_cases (inRange_decimal.mp h) with halike | htext
          · exact halike
          · exact absurd ⟨d, rfl, htext⟩ hv
      | infinite negative => exact .rfl
      | nan signaling negative payload => exact .rfl
  | _ => exact .rfl

theorem boolean?_echo_of_echoedAsText (h : v.InRange) (hv : v.EchoedAsText) :
    (Content.of v.echo).boolean? = none := by
  obtain ⟨d, rfl, he⟩ := hv
  rw [echo, he, Content.of, Content.boolean?,
    Decimal.wordReading?_of_echo_eq_text (inRange_decimal.mp h) he]

theorem boolean?_of_echoedAsText (hv : v.EchoedAsText) : (Content.of v).boolean? = some true := by
  obtain ⟨d, rfl, he⟩ := hv
  rw [Content.of, Content.boolean?, Decimal.isZero_of_echo_eq_text he]
  rfl

/-- **Echoing a value keeps its number.** -/
theorem value?_echo (h : v.InRange) : (Content.of v.echo).value? = (Content.of v).value? := by
  by_cases hv : v.EchoedAsText
  · obtain ⟨d, rfl, -⟩ := hv
    exact Decimal.value?_echo (inRange_decimal.mp h)
  · exact (Content.value?_of_alike (alike_echo h hv)).symm

/-- The echo of a value takes its place in equality, but where it is a text beside another number. -/
theorem equal_echo_left (h : v.InRange) {b : Content}
    (hb : v.EchoedAsText → b.boolean? = some true → b.value? = (Content.of v).value?) :
    (Content.of v.echo).equal b = (Content.of v).equal b := by
  by_cases hv : v.EchoedAsText
  · specialize hb hv
    obtain ⟨d, rfl, he⟩ := hv
    rw [echo, he]
    exact Content.equal_text_of (inRange_decimal.mp h) he hb
  · exact (Content.equal_of_alike_left (alike_echo h hv) b).symm

/-- **Echoes are equal** where the values are, but for values whose echoes are apart. -/
theorem equal_echo (ha : a.InRange) (he : e.InRange) (h : ¬ a.EchoesApart e) :
    a.echo.equal e.echo = a.equal e := by
  rw [equal, equal, equal_echo_left ha, Content.equal_comm, equal_echo_left he, Content.equal_comm]
  · intro hspelt htrue
    by_contra hne
    exact h ⟨Or.inr hspelt, htrue, boolean?_of_echoedAsText hspelt, hne⟩
  · intro hspelt htrue
    have hnot : ¬ e.EchoedAsText := fun hv => by
      cases (boolean?_echo_of_echoedAsText he hv).symm.trans htrue
    rw [value?_echo he]
    by_contra hne
    exact h ⟨Or.inl hspelt, boolean?_of_echoedAsText hspelt,
      (Content.boolean?_of_alike (alike_echo he hnot)).trans htrue, Ne.symm hne⟩

/-- Values whose echoes are apart are equal, and their echoes are not. -/
theorem EchoesApart.equal (h : a.EchoesApart e) : a.equal e = true :=
  Content.equal_of_boolean? h.left h.right

theorem EchoesApart.equal_echo (ha : a.InRange) (he : e.InRange) (h : a.EchoesApart e) :
    a.echo.equal e.echo = false := by
  have hfalse : ∀ v w : Value, v.InRange → w.InRange → v.EchoedAsText →
      (Content.of v).value? ≠ (Content.of w).value? → v.echo.equal w.echo = false := by
    rintro _ w hv hw ⟨d, rfl, hd⟩ hne
    have hd' := inRange_decimal.mp hv
    rw [Value.equal, echo, hd, Content.of, Content.equal_text hd' hd, Bool.eq_false_iff]
    intro hsame
    exact hne ((Content.any_sameValue_iff.mp hsame).symm.trans (value?_echo hw))
  rcases h.spelt with hspelt | hspelt
  · exact hfalse a e ha he hspelt h.differ
  · rw [Value.equal, Content.equal_comm]
    exact hfalse e a he ha hspelt h.differ.symm

end Value

namespace Comparison

variable {a e : Value}

theorem eq_of_not_isOrdering {op : Comparison} (h : ¬ op.IsOrdering) :
    op = .equals ∨ op = .notEquals := by
  cases op with
  | equals => exact Or.inl rfl
  | notEquals => exact Or.inr rfl
  | _ => exact absurd trivial h

/-- **A comparison of echoes** comes out as that of the values, and the other way only for an equality
of values whose echoes are apart. -/
theorem holds_echo (op : Comparison) (ha : a.InRange) (he : e.InRange) :
    (op.IsOrdering ∨ ¬ a.EchoesApart e →
        op.holds (Content.of a.echo) (Content.of e.echo) = op.holds (Content.of a) (Content.of e)) ∧
      (¬ op.IsOrdering → a.EchoesApart e →
        op.holds (Content.of a.echo) (Content.of e.echo) =
          !op.holds (Content.of a) (Content.of e)) := by
  by_cases hop : op.IsOrdering
  · refine ⟨fun _ => ?_, fun h => absurd hop h⟩
    rw [holds_of_isOrdering hop, holds_of_isOrdering hop, Value.value?_echo ha, Value.value?_echo he]
  · refine ⟨fun h => ?_, fun _ h => ?_⟩
    · have hequal : (Content.of a.echo).equal (Content.of e.echo) =
          (Content.of a).equal (Content.of e) := Value.equal_echo ha he (h.resolve_left hop)
      rcases eq_of_not_isOrdering hop with rfl | rfl
      · exact hequal
      · exact congrArg not hequal
    · have hequal : (Content.of a).equal (Content.of e) = true := h.equal
      have hecho : (Content.of a.echo).equal (Content.of e.echo) = false := h.equal_echo ha he
      rcases eq_of_not_isOrdering hop with rfl | rfl
      · rw [holds, holds, hequal, hecho, Bool.not_true]
      · rw [holds, holds, hequal, hecho, Bool.not_not, Bool.not_false]

end Comparison
end Verdict
