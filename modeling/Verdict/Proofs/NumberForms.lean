/-
# Numbers in other forms

A number can be supplied in many forms: `25`, `25.0`, `25.00` and `2.5E+1` are an integer, a binary64
number and decimals of one value.  No comparison tells such forms apart (`Comparison.holds_of_alike`).
The texts of numbers do depend on the form, and equality comes to compare texts where a reading is
missing; but a text that folds like that of a number is number text itself, so that stage never makes
a number equal to a text (`Content.equal_number_string`).
-/

import Verdict.Proofs.DecimalValue
import Verdict.Proofs.LastWritten
import Verdict.Proofs.Matching
import Verdict.Proofs.ValueRange

namespace Verdict

open Text

namespace Content

/-- The number that a content stands for, as a rational number. -/
def value? (c : Content) : Option ℚ := c.number?.map Decimal.value

/-- Equal contents, or numbers in range of one value. -/
def Alike (a b : Content) : Prop :=
  a = b ∨ ∃ x y : Decimal, a = .number x ∧ b = .number y ∧ x.inRange = true ∧ y.inRange = true ∧
    x.value = y.value

theorem Alike.rfl {a : Content} : a.Alike a := Or.inl (Eq.refl a)

/-- Equality between contents other than null. -/
theorem equal_eq {a b : Content} (ha : a ≠ .null) (hb : b ≠ .null) :
    a.equal b =
      match a.boolean?, b.boolean? with
      | some x, some y => x == y
      | _, _ =>
        match a.number?, b.number? with
        | some x, some y => x.sameValue y
        | _, _ => fold a.text == fold b.text := by
  unfold equal
  split
  · exact absurd rfl ha
  · exact absurd rfl ha
  · exact absurd rfl hb
  · rfl

theorem equal_comm (a b : Content) : a.equal b = b.equal a := by
  by_cases ha : a = .null
  · subst ha
    cases b <;> rfl
  by_cases hb : b = .null
  · subst hb
    cases a <;> rfl
  have hvalue (x y : Decimal) : x.sameValue y = y.sameValue x := by
    rw [Bool.eq_iff_iff, Decimal.sameValue_iff, Decimal.sameValue_iff, eq_comm]
  rw [equal_eq ha hb, equal_eq hb ha]
  cases a.boolean? <;> cases b.boolean? <;> cases a.number? <;> cases b.number? <;>
    simp only [hvalue, Bool.beq_comm]

/-- **A number and a text** are never equal by their texts: a reading of the text decides, and
without one they differ. -/
theorem equal_number_string {x : Decimal} (hx : x.inRange = true) (s : String) :
    equal (.number x) (.string s) =
      match wordReading? s with
      | some b => (!x.isZero) == b
      | none => (Decimal.ofText? s).any x.sameValue := by
  rw [equal_eq (by simp) (by simp)]
  cases hb : wordReading? s with
  | some b => simp only [boolean?, hb]
  | none =>
      simp only [boolean?, number?, hb]
      cases hd : Decimal.ofText? s with
      | some y => rfl
      | none =>
          have hfold : fold x.text ≠ fold s := by
            intro h
            rw [Decimal.ofText?_of_fold_eq hx h.symm] at hd
            cases hd
          simpa [text] using hfold

theorem isZero_of_value_eq {x y : Decimal} (h : x.value = y.value) : x.isZero = y.isZero := by
  rw [Bool.eq_iff_iff, Decimal.isZero_iff_value, Decimal.isZero_iff_value, h]

theorem sameValue_of_value_eq {x y : Decimal} (h : x.value = y.value) (z : Decimal) :
    x.sameValue z = y.sameValue z := by
  rw [Bool.eq_iff_iff, Decimal.sameValue_iff, Decimal.sameValue_iff, h]

/-- The form of a number plays no part in equality. -/
theorem equal_of_alike_left {a a' : Content} (h : a.Alike a') (b : Content) :
    a.equal b = a'.equal b := by
  obtain rfl | ⟨x, y, rfl, rfl, hx, hy, hvalue⟩ := h
  · rfl
  · have hzero := isZero_of_value_eq hvalue
    have hsame : x.sameValue = y.sameValue := funext (sameValue_of_value_eq hvalue)
    cases b with
    | null => rfl
    | boolean c => exact congrArg (fun zero => (!zero) == c) hzero
    | number z => exact congrArg (fun zero => (!zero) == !z.isZero) hzero
    | string s => rw [equal_number_string hx, equal_number_string hy, hzero, hsame]

theorem equal_of_alike {a a' b b' : Content} (ha : a.Alike a') (hb : b.Alike b') :
    a.equal b = a'.equal b' := by
  rw [equal_of_alike_left ha, equal_comm, equal_of_alike_left hb, equal_comm]

theorem value?_of_alike {a b : Content} (h : a.Alike b) : a.value? = b.value? := by
  obtain rfl | ⟨x, y, rfl, rfl, -, -, hvalue⟩ := h
  · rfl
  · exact congrArg some hvalue

end Content

namespace Comparison

/-- Whether a comparison is one of the four that order numbers. -/
def IsOrdering : Comparison → Prop
  | .equals | .notEquals => False
  | _ => True

/-- **An ordering compares the numbers** that the two contents stand for, and fails where one stands
for none. -/
theorem holds_of_isOrdering {op : Comparison} (h : op.IsOrdering) (a e : Content) :
    op.holds a e =
      match a.value?, e.value? with
      | some x, some y => op.accepts (compare x y)
      | _, _ => false := by
  have hread : op.holds a e =
      match a.number?, e.number? with
      | some x, some y => op.accepts (x.order y)
      | _, _ => false := by
    cases op <;> first | rfl | exact h.elim
  rw [hread, Content.value?, Content.value?]
  cases a.number? with
  | none => rfl
  | some x =>
      cases e.number? with
      | none => rfl
      | some y => exact congrArg op.accepts (Decimal.order_eq_compare x y)

/-- **No comparison tells the forms of a number apart.** -/
theorem holds_of_alike {a a' e e' : Content} (ha : a.Alike a') (he : e.Alike e')
    (op : Comparison) : op.holds a e = op.holds a' e' := by
  have hequal := Content.equal_of_alike ha he
  cases op with
  | equals => exact hequal
  | notEquals => exact congrArg not hequal
  | _ =>
      rw [holds_of_isOrdering (by trivial), holds_of_isOrdering (by trivial),
        Content.value?_of_alike ha, Content.value?_of_alike he]

end Comparison

/-! ### Facts and literals in other forms -/

/-- Whether two values have equal contents, or are numbers in range of one value. -/
def Value.Alike (v w : Value) : Prop := (Content.of v).Alike (Content.of w)

/-- Numbers that exist are alike when they have one value, whatever their types. -/
theorem Value.alike_of_value_eq {v w : Value} (hv : v.InRange) (hw : w.InRange) {x y : Decimal}
    (hx : Content.of v = .number x) (hy : Content.of w = .number y) (h : x.value = y.value) :
    v.Alike w := by
  have hv := Content.inRange_of hv
  have hw := Content.inRange_of hw
  rw [hx] at hv
  rw [hy] at hw
  exact Or.inr ⟨x, y, hx, hy, hv, hw, h⟩

/-- Whether two conditions are the same but for the form of a number. -/
def Condition.Alike (c c' : Condition) : Prop :=
  c'.id = c.id ∧ c'.token = c.token ∧ c'.operator = c.operator ∧
    c.value.toValue.Alike c'.value.toValue

/-- Whether two documents are the same but for the forms of numbers. -/
def Document.Alike (d d' : Document) : Prop := d.Matches Group.keepLabel Condition.Alike d'

/-- Whether two members of facts are the same but for the form of a number. -/
def Value.MemberAlike (f f' : String × Value) : Prop := f.1 = f'.1 ∧ f.2.Alike f'.2

/-- Where members of the same names have related contents, every token finds related contents. -/
theorem FactTable.rel_lookup {R : Content → Content → Prop} (hnull : R .null .null)
    {facts facts' : List (String × Value)}
    (h : List.Forall₂ (fun f f' => f.1 = f'.1 ∧ R (Content.of f.2) (Content.of f'.2)) facts facts')
    (token : String) :
    R ((ofFields facts).lookup token).content ((ofFields facts').lookup token).content := by
  have hpairs : List.Forall₂ (fun p p' : String × Fact => p.1 = p'.1 ∧ R p.2.content p'.2.content)
      (facts.map fun f => (f.1, Fact.of f.2)) (facts'.map fun f => (f.1, Fact.of f.2)) := by
    rw [List.forall₂_map_left_iff, List.forall₂_map_right_iff]
    exact h
  have hget := Keyed.rel_get?_ofList (R := fun f f' : Fact => R f.content f'.content) hpairs token
  unfold lookup ofFields
  generalize Keyed.get? _ token = f at hget ⊢
  generalize Keyed.get? _ token = f' at hget ⊢
  cases hget with
  | some hf => exact hf
  | none => exact hnull

/-- Alike facts are found under every token. -/
theorem FactTable.alike_lookup {facts facts' : List (String × Value)}
    (h : List.Forall₂ Value.MemberAlike facts facts') (token : String) :
    ((ofFields facts).lookup token).content.Alike ((ofFields facts').lookup token).content :=
  rel_lookup .rfl h token

/-- A line without its echoes. -/
def Line.unechoed (l : Line) : Line := { l with expected := .null, actual := .null }

section
variable {facts facts' : FactTable}
  (hf : ∀ token, (facts.lookup token).content.Alike (facts'.lookup token).content)
include hf

theorem Condition.holds_of_alike {c c' : Condition} (h : c.Alike c') :
    c.holds facts = c'.holds facts' := by
  obtain ⟨-, ht, ho, hv⟩ := h
  unfold holds accepts comparison?
  rw [ht, ho]
  cases Comparison.ofText? c.operator with
  | none => rfl
  | some op => exact op.holds_of_alike (hf c.token) hv

theorem Condition.lookAlike_of_alike (labels : Labels) {c c' : Condition} (h : c.Alike c') :
    c.LookAlike Line.unechoed labels facts facts' c' := by
  intro index path
  have hholds := holds_of_alike hf h
  obtain ⟨-, ht, ho, -⟩ := h
  unfold visit line?
  dsimp only
  rw [ht, ho, hholds]
  cases labels.text? c.token <;> cases Line.index? index <;> rfl

end

/-- **The form of a number plays no part in an evaluation.**  Let two documents be the same but for
the forms of numbers among their literals, and let facts be the same but for the forms of numbers
among them.  Then, whatever the labels,

* conditions, groups at any depth and the documents hold alike, and have the same summaries;
* evaluations end alike, with the same notices, and leave the same lines but for their echoes;
* no number equals a text by its text if the text has no number reading: only boolean readings can
  make them equal. -/
theorem evaluations_of_alike {d d' : Document} {facts facts' : List (String × Value)}
    (hd : d.Alike d') (hf : List.Forall₂ Value.MemberAlike facts facts') :
    let table := FactTable.ofFields facts
    let table' := FactTable.ofFields facts'
    (∀ c c' : Condition, c.Alike c' → c.holds table = c'.holds table') ∧
      (∀ g g' : Group, g.Matches Group.keepLabel Condition.Alike g' →
        g.holds table = g'.holds table') ∧
      d.holds table = d'.holds table' ∧ d.summaries table = d'.summaries table' ∧
      (∀ labels, ((d.evaluate table labels).andThen fun o => .done (o.mapLines Line.unechoed)) =
        (d'.evaluate table' labels).andThen fun o => .done (o.mapLines Line.unechoed)) ∧
      (∀ labels, (d.verdict table labels).mapLines Line.unechoed =
        (d'.verdict table' labels).mapLines Line.unechoed) ∧
      ∀ (x : Decimal) (s : String), x.inRange = true → Decimal.ofText? s = none →
        fold x.text ≠ fold s ∧
          (Content.number x).equal (.string s) =
            (Content.wordReading? s).any fun b => (!x.isZero) == b := by
  intro table table'
  have hfacts := FactTable.alike_lookup hf
  have hold (c c' : Condition) : c.Alike c' → c.holds table = c'.holds table' :=
    Condition.holds_of_alike hfacts
  have look (labels : Labels) (c c' : Condition) :
      c.Alike c' → c.LookAlike Line.unechoed labels table table' c' :=
    Condition.lookAlike_of_alike hfacts labels
  refine ⟨hold, Group.holds_of_matches hold, Document.holds_of_matches hold hd,
    Document.summaries_of_matches (look Keyed.empty) hd rfl,
    fun labels => Document.mapLines_evaluate (look labels) hd,
    fun labels => Document.mapLines_verdict (look labels) hd, fun x s hx hs => ⟨?_, ?_⟩⟩
  · intro h
    rw [Decimal.ofText?_of_fold_eq hx h.symm] at hs
    cases hs
  · rw [Content.equal_number_string hx, hs]
    cases Content.wordReading? s <;> rfl

namespace Sample

/-- A group of conditions on a price. -/
def priced (limit : Literal) : Document :=
  ⟨.all, [⟨"price", "Price", .all,
    [⟨"", "price", "<=", limit⟩, ⟨"", "Price", "=", limit⟩], []⟩]⟩

/-- A fact on a price. -/
def price (v : Value) : List (String × Value) := [("price", v)]

/-- The hypotheses of `evaluations_of_alike` are satisfiable: 25 as an integer and as a decimal with
zeros, and as a binary64 number and a decimal without. -/
theorem evaluations_of_alike_priced :
    let d := priced (.integer 25)
    let d' := priced (.decimal ⟨false, 2500, -2⟩)
    let facts := price (.float (Binary64.ofDecimal ⟨false, 25, 0⟩))
    let facts' := price (.decimal (.finite ⟨false, 25, 0⟩))
    d.Alike d' ∧ List.Forall₂ Value.MemberAlike facts facts' ∧
      d.holds (FactTable.ofFields facts) = d'.holds (FactTable.ofFields facts') ∧
      d.holds (FactTable.ofFields facts) = true := by
  intro d d' facts facts'
  have hliteral : (Value.int 25).Alike (.decimal (.finite ⟨false, 2500, -2⟩)) :=
    Value.alike_of_value_eq (.int (by decide +kernel)) (.decimal (by decide +kernel)) rfl rfl
      (Decimal.sameValue_iff.mp (by decide +kernel))
  have hfact : (Value.float (Binary64.ofDecimal ⟨false, 25, 0⟩)).Alike
      (.decimal (.finite ⟨false, 25, 0⟩)) :=
    Value.alike_of_value_eq (.float _) (.decimal (by decide +kernel)) (if_pos (by decide +kernel))
      rfl (Decimal.sameValue_iff.mp (by decide +kernel))
  have hd : d.Alike d' := by
    refine ⟨rfl, ?_⟩
    simp [d, d', priced, Group.AllMatch, Group.Matches, Group.keepLabel, Condition.Alike,
      Literal.toValue, hliteral]
  have hf : List.Forall₂ Value.MemberAlike facts facts' := .cons ⟨rfl, hfact⟩ .nil
  obtain ⟨-, -, hholds, -⟩ := evaluations_of_alike hd hf
  have htrue : d.holds (FactTable.ofFields facts) = true := by decide +kernel
  exact ⟨hd, hf, hholds, htrue⟩

end Sample

end Verdict
