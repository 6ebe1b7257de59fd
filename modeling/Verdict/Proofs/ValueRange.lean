/-
# Values that exist

Integers and decimals exist within a range (`Value.InRange`).  Where the values that were supplied
do, so do the literals of the document that is read from them (`Document.inRange_of_read`), the facts
in a table, and every number that a content stands for.
-/

import Verdict.Proofs.BinaryRange
import Verdict.Fact.Table
import Verdict.Proofs.Decoding
import Verdict.Proofs.Descriptions
import Verdict.Proofs.JsonValues
import Verdict.Proofs.ScientificText

namespace Verdict

open Text

/-! ### Numbers -/

namespace Text

theorem ofDigits_cons (d : Nat) (r : List Nat) :
    ofDigits (d :: r) = d * 10 ^ r.length + ofDigits r := by
  have hd : ofDigits [d] = d := Nat.zero_add d
  rw [← List.singleton_append, ofDigits_append, hd]

theorem ofDigits_lt {ds : List Nat} (h : ∀ d ∈ ds, d < 10) : ofDigits ds < 10 ^ ds.length := by
  induction ds with
  | nil => decide
  | cons d r ih =>
      rw [List.forall_mem_cons] at h
      have hr := ih h.2
      have hd : d * 10 ^ r.length ≤ 9 * 10 ^ r.length := Nat.mul_le_mul_right _ (by omega)
      rw [ofDigits_cons, List.length_cons, Nat.pow_succ]
      omega

end Text

namespace Decimal

/-- Integers of as many digits as a text may write are in range. -/
theorem inRange_ofInt {n : Int} (h : n.natAbs < 10 ^ Value.maxIntegerDigits) :
    (ofInt n).inRange = true := by
  have hdigits := (digitCount_le_iff n.natAbs (by decide)).mpr h
  exact inRange_of_digitCount_le hdigits (by dsimp only [ofInt]; decide) (by dsimp only [ofInt]; decide)

theorem inRange_of_decimal? {n : Numeral} {d : Decimal} (h : n.decimal? = some d) :
    d.inRange = true := by
  obtain ⟨hin, hd⟩ := Option.ite_none_right_eq_some.mp h
  exact Option.some.inj hd ▸ hin

/-- A text stands for no number out of range. -/
theorem inRange_of_ofText? {s : String} {d : Decimal} (h : ofText? s = some d) :
    d.inRange = true := by
  obtain ⟨n, -, hn⟩ := Option.bind_eq_some_iff.mp h
  exact inRange_of_decimal? hn

end Decimal

namespace Value

theorem lt_of_naturalOfDigits? {cs : List Char} {n : Nat}
    (h : naturalOfDigits? cs = some n) : n < 10 ^ maxIntegerDigits := by
  obtain ⟨hcs, hn⟩ := Option.ite_none_left_eq_some.mp h
  simp only [Bool.or_eq_true, decide_eq_true_eq, Bool.not_eq_true', not_or, Bool.not_eq_false,
    Nat.not_lt] at hcs
  obtain rfl := Option.some.inj hn
  have hdigits : ∀ d ∈ cs.map (fun c => c.toNat - 48), d < 10 := by
    intro d hd
    obtain ⟨c, hc, rfl⟩ := List.mem_map.mp hd
    have := List.all_eq_true.mp hcs.1.1.2 c hc
    simp only [isAsciiDigit, Bool.and_eq_true, decide_eq_true_eq] at this
    omega
  calc
    ofDigits (cs.map fun c => c.toNat - 48) < 10 ^ (cs.map fun c => c.toNat - 48).length :=
      ofDigits_lt hdigits
    _ ≤ 10 ^ maxIntegerDigits := by
      rw [List.length_map]
      exact Nat.pow_le_pow_right (by decide) hcs.2

theorem natAbs_lt_of_intOfDigits? {cs : List Char} {n : Int} (h : intOfDigits? cs = some n) :
    n.natAbs < 10 ^ maxIntegerDigits := by
  unfold intOfDigits? at h
  split at h
  all_goals
    simp only [Option.bind_eq_bind, Option.pure_def, Option.map_eq_some_iff,
      Option.bind_eq_some_iff, Option.some.injEq] at h
    obtain ⟨_, ⟨k, hk, rfl⟩, rfl⟩ := h
    simpa using lt_of_naturalOfDigits? hk

theorem natAbs_lt_of_intOfText? {s : String} {n : Int} (h : intOfText? s = some n) :
    n.natAbs < 10 ^ maxIntegerDigits := by
  unfold intOfText? at h
  split at h
  · simp only [Option.bind_eq_bind, Option.pure_def, Option.map_eq_some_iff,
      Option.bind_eq_some_iff, Option.some.injEq] at h
    obtain ⟨ds, -, _, ⟨k, hk, rfl⟩, rfl⟩ := h
    simpa using lt_of_naturalOfDigits? hk
  · obtain ⟨ds, -, h⟩ := Option.bind_eq_some_iff.mp h
    exact natAbs_lt_of_intOfDigits? h
  · obtain ⟨ds, -, h⟩ := Option.bind_eq_some_iff.mp h
    exact natAbs_lt_of_intOfDigits? h

/-! ### Values -/

/-- Values whose integers and decimals are all in range. -/
inductive InRange : Value → Prop
  | null : InRange .null
  | bool (b : Bool) : InRange (.bool b)
  | int {n : Int} (h : (Decimal.ofInt n).inRange = true) : InRange (.int n)
  | float (x : Binary64) : InRange (.float x)
  | decimal {d : Decimal} (h : d.inRange = true) : InRange (.decimal (.finite d))
  | infinite (negative : Bool) : InRange (.decimal (.infinite negative))
  | nan (signaling negative : Bool) (payload : Option Nat) :
      InRange (.decimal (.nan signaling negative payload))
  | text (s : String) : InRange (.text s)
  | bytes (bs : List UInt8) : InRange (.bytes bs)
  | other (typeName : String) : InRange (.other typeName)
  | list {items : List Value} (h : ∀ v ∈ items, InRange v) : InRange (.list items)
  | object {fields : List (String × Value)} (h : ∀ f ∈ fields, InRange f.2) :
      InRange (.object fields)

attribute [simp] InRange.null InRange.bool InRange.float InRange.infinite InRange.nan InRange.text
  InRange.bytes InRange.other

@[simp] theorem inRange_int {n : Int} : InRange (.int n) ↔ (Decimal.ofInt n).inRange = true :=
  ⟨fun | .int h => h, .int⟩

@[simp] theorem inRange_decimal {d : Decimal} :
    InRange (.decimal (.finite d)) ↔ d.inRange = true :=
  ⟨fun | .decimal h => h, .decimal⟩

@[simp] theorem inRange_list {items : List Value} :
    InRange (.list items) ↔ ∀ v ∈ items, v.InRange :=
  ⟨fun | .list h => h, .list⟩

@[simp] theorem inRange_object {fields : List (String × Value)} :
    InRange (.object fields) ↔ ∀ f ∈ fields, f.2.InRange :=
  ⟨fun | .object h => h, .object⟩

/-- An integer of as many digits as a text may write. -/
theorem natAbs_toInt_lt {n : Numeral} (hn : ∀ k ∈ n.whole, k < 10)
    (hlength : n.whole.length ≤ maxIntegerDigits) : n.toInt.natAbs < 10 ^ maxIntegerDigits := by
  calc
    n.toInt.natAbs = ofDigits n.whole := by
      unfold Numeral.toInt
      split <;> simp
    _ < 10 ^ n.whole.length := ofDigits_lt hn
    _ ≤ 10 ^ maxIntegerDigits := Nat.pow_le_pow_right (by decide) hlength

theorem inRange_of_numberValue {n : Numeral} {v : Value} (hn : ∀ k ∈ n.whole, k < 10)
    (h : Json.numberValue .rules n = .ok v) : v.InRange := by
  unfold Json.numberValue at h
  split at h
  · split at h
    · next hlength =>
      obtain rfl := Except.ok.inj h
      have hle : n.whole.length ≤ maxIntegerDigits := by simpa [Json.Dialect.rules] using hlength
      exact .int (Decimal.inRange_ofInt (natAbs_toInt_lt hn hle))
    · cases h
  · rw [if_pos (show Json.Dialect.rules.exact = true from rfl)] at h
    split at h
    · next hd =>
      obtain rfl := Except.ok.inj h
      exact .decimal (Decimal.inRange_of_decimal? hd)
    · cases h

theorem closedFor_inRange : Json.ClosedFor .rules InRange where
  constant := by simp [Json.constants]
  text := .text
  number _ _ := inRange_of_numberValue
  list _ := .list
  object _ := .object

/-! ### Texts of values -/

theorem haveText_iff {items : List Value} :
    haveText items = true ↔ ∀ v ∈ items, v.hasText = true := by
  induction items with
  | nil => simp [haveText]
  | cons v r ih => rw [haveText, Bool.and_eq_true, ih, List.forall_mem_cons]

theorem membersHaveText_iff {fields : List (String × Value)} :
    membersHaveText fields = true ↔ ∀ f ∈ fields, f.2.hasText = true := by
  induction fields with
  | nil => simp [membersHaveText]
  | cons f r ih => rw [membersHaveText, Bool.and_eq_true, ih, List.forall_mem_cons]

/-- **What a request holds has a text:** the integers that it writes are short enough. -/
theorem closedFor_hasText : Json.ClosedFor .request fun v => v.hasText = true where
  constant := by simp [Json.constants, hasText]
  text _ := rfl
  number n v hn h := by
    unfold Json.numberValue at h
    split at h
    · split at h
      · next hlength =>
        obtain rfl := Except.ok.inj h
        have hle : n.whole.length ≤ maxIntegerDigits := by
          simpa [Json.Dialect.request] using hlength
        rw [hasText]
        exact decide_eq_true ((digitCount_le_iff _ (by decide)).mpr (natAbs_toInt_lt hn hle))
      · cases h
    · obtain rfl := Except.ok.inj h
      rfl
  list _ := haveText_iff.mpr
  object _ := membersHaveText_iff.mpr

end Value

/-! ### Contents and facts -/

namespace Content

/-- Contents whose number, if they are one, is in range. -/
def InRange : Content → Prop
  | .number d => d.inRange = true
  | _ => True

theorem inRange_of {v : Value} (h : v.InRange) : (Content.of v).InRange := by
  cases h with
  | int h => exact h
  | decimal h => exact h
  | float x =>
      rw [Content.of]
      split
      · next hx => exact Binary64.inRange_toDecimal hx
      · trivial
  | _ => trivial

/-- **The number that a content stands for is in range.** -/
theorem inRange_number? {c : Content} (h : c.InRange) {d : Decimal} (hd : c.number? = some d) :
    d.inRange = true := by
  cases c with
  | number x => exact Option.some.inj hd ▸ h
  | string s => exact Decimal.inRange_of_ofText? hd
  | _ => cases hd

end Content

namespace FactTable

/-- A token has the fact of a value that is null or was put into the table, with what all these have. -/
theorem exists_lookup_of {P : Value → Prop} (hnull : P .null) {facts : Value} {table : FactTable}
    (hfacts : ∀ fields, facts = .object fields → ∀ f ∈ fields, P f.2)
    (h : ofValue? facts = some table) (token : String) :
    ∃ v, table.lookup token = Fact.of v ∧ P v := by
  unfold lookup
  cases hv : table.get? token with
  | none => exact ⟨.null, rfl, hnull⟩
  | some f =>
      obtain ⟨e, he, rfl⟩ := Option.map_eq_some_iff.mp hv
      have he := Keyed.mem_of_entry_eq he
      unfold ofValue? at h
      split at h
      · next fields =>
        obtain rfl := Option.some.inj h
        obtain he | he := Keyed.mem_entries_putAll he
        · cases he
        · rw [List.map_map, List.mem_map] at he
          obtain ⟨f, hf, he⟩ := he
          exact ⟨f.2, he.symm, hfacts fields rfl f hf⟩
      · obtain ⟨-, ht⟩ := Option.ite_none_left_eq_some.mp h
        obtain rfl := Option.some.inj ht
        cases he

/-- Such a value is in range where the facts are. -/
theorem exists_lookup {facts : Value} {table : FactTable} (h : ofValue? facts = some table)
    (token : String) : ∃ v, table.lookup token = Fact.of v ∧ (facts.InRange → v.InRange) :=
  exists_lookup_of (P := fun v => facts.InRange → v.InRange) (fun _ => .null)
    (fun _ hobject f hf hin => Value.inRange_object.mp (hobject ▸ hin) f hf) h token

end FactTable

/-! ### Literals of a document -/

namespace Value

namespace InRange

theorem member {fields : List (String × Value)} (h : InRange (.object fields)) (name : String) :
    InRange (Value.member name fields) := by
  rcases member_cases name fields with hnull | ⟨f, hf, hv⟩
  · exact hnull ▸ .null
  · exact hv ▸ inRange_object.mp h f hf

theorem items {v w : Value} (h : v.InRange) (hw : w ∈ v.items) : w.InRange := by
  cases h with
  | list hitems => exact hitems w hw
  | _ => cases hw

end InRange
end Value

open Value

/-- A literal is in range if its value is. -/
def Literal.InRange (l : Literal) : Prop := l.toValue.InRange

theorem Literal.inRange_of_ofValue? {v : Value} (h : v.InRange) {l : Literal}
    (hl : ofValue? v = some l) : l.InRange := by
  cases h with
  | int h => exact Option.some.inj hl ▸ .int h
  | decimal h => exact Option.some.inj hl ▸ .decimal h
  | float x =>
      obtain rfl := Option.some.inj hl
      split
      · next hx => exact .decimal (Binary64.inRange_toDecimal hx)
      · exact .text _
  | bytes bs =>
      obtain ⟨s, -, rfl⟩ := Option.map_eq_some_iff.mp hl
      split
      · exact .bool _
      · next hn => exact .int (Decimal.inRange_ofInt (Value.natAbs_lt_of_intOfText? hn))
      · exact .text s
  | null => exact Option.some.inj hl ▸ .null
  | bool b => exact Option.some.inj hl ▸ .bool b
  | text s => exact Option.some.inj hl ▸ .text s
  | _ => cases hl

theorem Condition.inRange_of_ofValue? {v : Value} (h : v.InRange) {c : Condition}
    (hc : ofValue? v = some c) : c.value.InRange := by
  cases v with
  | object fields =>
      simp only [ofValue?, ofFields?, Option.bind_eq_bind, Option.bind_eq_some_iff, Option.pure_def,
        Option.some.injEq] at hc
      obtain ⟨_, -, _, -, _, -, l, hl, rfl⟩ := hc
      exact Literal.inRange_of_ofValue? (h.member "value") hl
  | _ => cases hc

theorem Condition.inRange_of_ofValues? {vs : List Value} (h : ∀ v ∈ vs, v.InRange)
    {cs : List Condition} (hc : ofValues? vs = some cs) : ∀ c ∈ cs, c.value.InRange := by
  induction vs generalizing cs with
  | nil =>
      obtain rfl := Option.some.inj hc
      exact List.forall_mem_nil _
  | cons v r ih =>
      rw [List.forall_mem_cons] at h
      simp only [ofValues?, Option.bind_eq_bind, Option.bind_eq_some_iff, Option.pure_def,
        Option.some.injEq] at hc
      obtain ⟨c, hv, cs, hr, rfl⟩ := hc
      exact List.forall_mem_cons.mpr ⟨inRange_of_ofValue? h.1 hv, ih h.2 hr⟩

theorem Condition.inRange_of_listOfFields? {fields : List (String × Value)}
    (h : InRange (.object fields)) {cs : List Condition} (hc : listOfFields? fields = some cs) :
    ∀ c ∈ cs, c.value.InRange := by
  obtain ⟨vs, hvs, hc⟩ := Option.bind_eq_some_iff.mp hc
  refine inRange_of_ofValues? (fun v hv => ?_) hc
  have hm := h.member "conditions"
  change asItems? (member "conditions" fields) = some vs at hvs
  generalize member "conditions" fields = w at hvs hm
  cases w with
  | null => cases hvs; cases hv
  | list items =>
      obtain rfl := Option.some.inj hvs
      exact inRange_list.mp hm v hv
  | _ => cases hvs

namespace Group

theorem inRange_of_ofValues? {vs : List Value}
    (h : ∀ v ∈ vs, ∀ g, ofValue? v = some g → ∀ l ∈ g.literals, l.InRange) {gs : List Group}
    (hgs : ofValues? vs = some gs) : ∀ l ∈ allLiterals gs, l.InRange := by
  induction vs generalizing gs with
  | nil =>
      obtain rfl := Option.some.inj hgs
      exact List.forall_mem_nil _
  | cons v r ih =>
      rw [List.forall_mem_cons] at h
      simp only [ofValues?, Option.bind_eq_bind, Option.bind_eq_some_iff, Option.pure_def,
        Option.some.injEq] at hgs
      obtain ⟨g, hv, gs, hr, rfl⟩ := hgs
      exact List.forall_mem_append.mpr ⟨h.1 g hv, ih h.2 hr⟩

/-- The literals of a group, and of a list of groups, are in range where the value is.  The
induction is on the value's being in range, which is known of its parts. -/
theorem inRange_of_value {v : Value} (h : v.InRange) :
    (∀ g, ofValue? v = some g → ∀ l ∈ g.literals, l.InRange) ∧
      ∀ gs, ofItems? v = some gs → ∀ l ∈ allLiterals gs, l.InRange := by
  induction h with
  | null =>
      refine ⟨nofun, fun gs h => ?_⟩
      obtain rfl := Option.some.inj h
      exact List.forall_mem_nil _
  | list _ ih => exact ⟨nofun, fun _ => inRange_of_ofValues? fun v hv => (ih v hv).1⟩
  | @object fields h ih =>
      refine ⟨fun g hg => ?_, nofun⟩
      rw [ofValue?_object] at hg
      simp only [Option.bind_eq_some_iff, Option.some.injEq] at hg
      obtain ⟨_, -, _, -, cs, hcs, gs, hgs, rfl⟩ := hg
      refine List.forall_mem_append.mpr ⟨?_, ?_⟩
      · rintro _ hl
        obtain ⟨c, hc, rfl⟩ := List.mem_map.mp hl
        exact Condition.inRange_of_listOfFields? (.object h) hcs c hc
      · rcases subgroups_cases fields with hnull | ⟨f, hf, hv⟩
        · rw [hnull] at hgs
          obtain rfl := Option.some.inj hgs
          exact List.forall_mem_nil _
        · exact (ih f hf).2 gs (hv ▸ hgs)
  | _ => exact ⟨nofun, nofun⟩

end Group

namespace Document

variable {P : Value → Prop}

theorem exists_fields_of_ofValue {v : Value} (hv : P v) {d : Document}
    (hd : (ofValue v).result = .ok d) :
    d = empty ∨ ∃ fields, ofFields? fields = some d ∧ P (.object fields) := by
  cases v with
  | object fields =>
      rw [ofValue] at hd
      split at hd
      · exact Or.inl (Except.ok.inj hd).symm
      · split at hd
        · next hfields =>
          obtain rfl := Except.ok.inj hd
          exact Or.inr ⟨fields, hfields, hv⟩
        · exact Or.inl (Except.ok.inj hd).symm
  | _ => exact Or.inl (Except.ok.inj hd).symm

theorem exists_fields_of_ofChars (hP : Json.ClosedFor .rules P) {cs : List Char} {d : Document}
    (hd : (ofChars cs).result = .ok d) :
    d = empty ∨ ∃ fields, ofFields? fields = some d ∧ P (.object fields) := by
  unfold ofChars ofRead at hd
  split at hd
  · next v hv => exact exists_fields_of_ofValue (hP.of_read hv) hd
  · cases hd
  · exact Or.inl (Except.ok.inj hd).symm

/-- **A document that is read** is empty or described by an object, which has every property that the
rules have and that JSON texts keep. -/
theorem exists_fields_of_read (hP : Json.ClosedFor .rules P) {rules : Value} (h : P rules)
    {d : Document} (hd : (read rules).result = .ok d) :
    d = empty ∨ ∃ fields, ofFields? fields = some d ∧ P (.object fields) := by
  cases rules with
  | null => exact Or.inl (Except.ok.inj hd).symm
  | text s =>
      rw [read, ofText] at hd
      split at hd
      · exact Or.inl (Except.ok.inj hd).symm
      · exact exists_fields_of_ofChars hP hd
  | bytes bs =>
      rw [read, ofBytes] at hd
      split at hd
      · exact Or.inl (Except.ok.inj hd).symm
      · split at hd
        · exact exists_fields_of_ofChars hP hd
        · exact Or.inl (Except.ok.inj hd).symm
  | _ => exact exists_fields_of_ofValue h hd

/-- **The literals of a document that is read are in range,** if the integers and decimals of the
rules are. -/
theorem inRange_of_read {rules : Value} (h : rules.InRange) {d : Document}
    (hd : (read rules).result = .ok d) : ∀ l ∈ d.literals, l.InRange := by
  obtain rfl | ⟨fields, hfields, hin⟩ := exists_fields_of_read closedFor_inRange h hd
  · exact List.forall_mem_nil _
  · obtain ⟨gs, hgs, hdepth⟩ := Option.bind_eq_some_iff.mp hfields
    obtain ⟨-, hdoc⟩ := Option.ite_none_right_eq_some.mp hdepth
    obtain rfl := Option.some.inj hdoc
    rw [Group.ofMember?_eq] at hgs
    exact (Group.inRange_of_value (hin.member "groups")).2 gs hgs

/-- No chain of groups is too long in a document that is read. -/
theorem depths_le_of_read {rules : Value} {d : Document} (hd : (read rules).result = .ok d) :
    Group.depths d.groups ≤ maxDepth := by
  have hP : Json.ClosedFor .rules fun _ => True := by constructor <;> intros <;> trivial
  obtain rfl | ⟨fields, hfields, -⟩ := exists_fields_of_read hP trivial hd
  · exact Nat.zero_le _
  · obtain ⟨gs, -, hdepth⟩ := Option.bind_eq_some_iff.mp hfields
    obtain ⟨hle, hdoc⟩ := Option.ite_none_right_eq_some.mp hdepth
    exact Option.some.inj hdoc ▸ hle

end Document

end Verdict
