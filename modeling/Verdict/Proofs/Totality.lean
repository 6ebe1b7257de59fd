/-
# Rules stand for a document, but for one fault

Whatever rules arrive as, reading them gives a document: the one that they describe when their
value is a well-formed document, and the empty one when it is not, or when there is no value to
speak of.  The only exception is a text in which a number out of range is the first fault, and
reading such a text always fails (`document_unless_outOfRange`).
-/

import Verdict.Proofs.Acceptance
import Verdict.Proofs.JsonFaults
import Verdict.Proofs.JsonValues

namespace Verdict
namespace Value

/-- The JSON text of rules, if they are a text or the bytes of one, and not blank. -/
def ruleText? : Value → Option (List Char)
  | .text s => if Text.allBlank s then none else some s.toList
  | .bytes bs => if bs.all Text.isBlankByte then none else Json.decodeBytes bs
  | _ => none

/-- The value of rules: that of their JSON text, or rules that are decoded already. -/
def ruleValue? : Value → Option Value
  | .text s => (ruleText? (.text s)).bind fun cs => (Json.read .rules cs).toOption
  | .bytes bs => (ruleText? (.bytes bs)).bind fun cs => (Json.read .rules cs).toOption
  | v => some v

/-- Whether the first fault in the text of rules is a number out of range. -/
def MeetsOutOfRange (rules : Value) : Prop :=
  ∃ cs, rules.ruleText? = some cs ∧ Json.MeetsOutOfRange (.value []) cs

/-- Whether a document is what a value stands for, if there is a value: what it describes when it
is well-formed, and the empty document otherwise. -/
def StandsFor (v : Option Value) (d : Document) : Prop :=
  (∀ w ∈ v, w.IsDocument (some maxIntegerDigits) → d = w.toDocument) ∧
    ((∀ w ∈ v, ¬ w.IsDocument (some maxIntegerDigits)) → d = .empty)

theorem standsFor_none : StandsFor none .empty := by
  refine ⟨?_, fun _ => rfl⟩
  rintro w ⟨⟩

end Value

open Value

namespace Document

/-- A decoded value stands for a document. -/
theorem exists_ofValue {v : Value} (hb : v.BytesFree) :
    ∃ d, (ofValue v).result = .ok d ∧ StandsFor (some v) d := by
  by_cases hd : v.IsDocument (some maxIntegerDigits)
  · rw [ofValue_eq_done hb hd]
    refine ⟨_, rfl, ?_, fun h => absurd hd (h v rfl)⟩
    rintro w ⟨⟩ -
    rfl
  · obtain ⟨n, hn⟩ := ofValue_eq_unusable hb hd
    rw [hn]
    refine ⟨_, rfl, ?_, fun _ => rfl⟩
    rintro w ⟨⟩ h
    exact absurd h hd

/-- A text in which a number out of range is the first fault has no document. -/
theorem ofChars_of_meetsOutOfRange {cs : List Char} (h : Json.MeetsOutOfRange (.value []) cs) :
    ofChars cs = .fail .decimalRange := by
  rw [ofChars, Json.read, (Json.run_rules_eq_outOfRange_iff _ cs).mpr h]
  rfl

/-- Any other text stands for a document. -/
theorem exists_ofChars {cs : List Char} (h : ¬ Json.MeetsOutOfRange (.value []) cs) :
    ∃ d, (ofChars cs).result = .ok d ∧ StandsFor (Json.read .rules cs).toOption d := by
  rw [ofChars]
  cases hr : Json.read .rules cs with
  | ok v => exact exists_ofValue (Json.bytesFree_of_read hr)
  | error e =>
      have hne : e ≠ .outOfRange := by
        rintro rfl
        exact h ((Json.run_rules_eq_outOfRange_iff _ cs).mp hr)
      refine ⟨.empty, ?_, standsFor_none⟩
      cases e with
      | outOfRange => exact absurd rfl hne
      | _ => rfl

/-- Rules with a text are read as that text. -/
theorem read_of_ruleText {rules : Value} {cs : List Char} (h : rules.ruleText? = some cs) :
    read rules = ofChars cs ∧ rules.ruleValue? = (Json.read .rules cs).toOption := by
  cases rules with
  | text s =>
      obtain ⟨hb, hs⟩ := Option.ite_none_left_eq_some.mp h
      obtain rfl := Option.some.inj hs
      exact ⟨if_neg hb, by rw [ruleValue?, h, Option.bind_some]⟩
  | bytes bs =>
      obtain ⟨hb, hd⟩ := Option.ite_none_left_eq_some.mp h
      refine ⟨?_, by rw [ruleValue?, h, Option.bind_some]⟩
      rw [read, ofBytes, if_neg hb, hd]
  | _ => cases h

/-- Rules without a text are decoded already, or stand for the empty document. -/
theorem exists_read_of_ruleText_eq_none {rules : Value}
    (hrules : rules.BytesFree ∨ ∃ bs, rules = .bytes bs) (h : rules.ruleText? = none) :
    ∃ d, (read rules).result = .ok d ∧ StandsFor rules.ruleValue? d := by
  cases rules with
  | text s =>
      have hs : Text.allBlank s = true := by
        cases hs : Text.allBlank s with
        | true => rfl
        | false =>
            rw [ruleText?, hs] at h
            cases h
      have hr : read (.text s) = .done empty := if_pos hs
      rw [hr, ruleValue?, h]
      exact ⟨_, rfl, standsFor_none⟩
  | bytes bs =>
      rw [ruleValue?, h]
      refine ⟨.empty, ?_, standsFor_none⟩
      rw [ruleText?] at h
      rw [read, ofBytes]
      split
      · rfl
      · next hb =>
        rw [if_neg hb] at h
        rw [h]
        rfl
  | null =>
      refine ⟨.empty, rfl, ?_, fun _ => rfl⟩
      rintro w ⟨⟩ hw
      cases hw
  | _ =>
      rcases hrules with hb | ⟨bs, hbs⟩
      · exact exists_ofValue hb
      · cases hbs

end Document

/-- **Rules stand for a document, but for one fault.**  A JSON value, a text or a byte string is
read without a document exactly when the first fault in its text is a number out of range. -/
theorem document_unless_outOfRange {rules : Value}
    (hrules : rules.BytesFree ∨ ∃ bs, rules = .bytes bs) :
    (rules.MeetsOutOfRange → (Document.read rules).result = .error .decimalRange) ∧
      (¬ rules.MeetsOutOfRange →
        ∃ d, (Document.read rules).result = .ok d ∧ StandsFor rules.ruleValue? d) := by
  cases ht : rules.ruleText? with
  | none =>
      constructor
      · rintro ⟨cs, hcs, -⟩
        rw [ht] at hcs
        cases hcs
      · intro _
        exact Document.exists_read_of_ruleText_eq_none hrules ht
  | some cs =>
      obtain ⟨hread, hvalue⟩ := Document.read_of_ruleText ht
      have hmeets : rules.MeetsOutOfRange ↔ Json.MeetsOutOfRange (.value []) cs := by
        rw [MeetsOutOfRange, ht]
        simp only [Option.some.injEq, exists_eq_left']
      rw [hread, hvalue, hmeets]
      constructor
      · intro h
        rw [Document.ofChars_of_meetsOutOfRange h]
        rfl
      · exact Document.exists_ofChars

namespace Sample

/-- Rules that hold the limit of something beside their groups: their `limit` is a number that no
decimal holds. -/
def limited : Value :=
  .text "\x7b\"groups\":[\x7b\"id\":\"g\"\x7d],\"limit\":1E+1000000000000000000\x7d"

/-- The rules are a text, and have no document. -/
theorem limited_has_no_document :
    limited.BytesFree ∧ limited.MeetsOutOfRange ∧
      (Document.read limited).result = .error .decimalRange := by
  have hb : limited.BytesFree := .text _
  have hfault : (limited.ruleText?.bind fun cs => Json.faultOf? (Json.read .rules cs)) =
      some .outOfRange := by decide +kernel
  obtain ⟨cs, ht, hr⟩ := Option.bind_eq_some_iff.mp hfault
  have hm : limited.MeetsOutOfRange :=
    ⟨cs, ht, (Json.run_rules_eq_outOfRange_iff _ cs).mp (Json.faultOf?_eq_some_iff.mp hr)⟩
  exact ⟨hb, hm, (document_unless_outOfRange (Or.inl hb)).1 hm⟩

end Sample

end Verdict
