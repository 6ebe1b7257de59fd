/-
# Decoded rules: all or nothing

Rules that are decoded already, and hold no byte strings, stand for what they describe when they
are well-formed, and for the empty document when any part of them is not
(`document_of_wellFormed_rules`).

The texts of integers set a bound that the literals of conditions do not have: an integer of more
than `maxIntegerDigits` digits fills no text field.
-/

import Verdict.Proofs.Decoding
import Verdict.Proofs.Supplied

namespace Verdict

open Value

namespace Value

/-- The well-formed documents are the objects whose `groups` are a list of well-formed groups. -/
theorem isDocument_object_iff {maxDigits : Option Nat} {fields : List (String × Value)} :
    IsDocument maxDigits (.object fields) ↔
      member "groups" fields ≠ .null ∧
        (member "groups" fields).IsListOf (IsGroup maxDigits maxDepth) := by
  rw [IsDocument, member]
  cases lookup? "groups" fields with
  | none => simp
  | some v => cases v <;> simp [IsListOf]

end Value

namespace Document

/-- **The members of an object describe a document** exactly when its `groups` are null or a list
of well-formed groups. -/
theorem ofFields?_eq_some_iff {fields : List (String × Value)} (hb : BytesFree (.object fields))
    {d : Document} :
    ofFields? fields = some d ↔
      (member "groups" fields).IsListOf (IsGroup (some maxIntegerDigits) maxDepth) ∧
        toDocument (.object fields) = d := by
  have hgs {gs : List Group} :
      (Group.ofItems? (member "groups" fields) = some gs ∧ Group.depths gs ≤ maxDepth) ↔ _ :=
    Group.ofItems?_eq_some_iff_of fun w hw g =>
      Group.ofValue?_eq_some_iff ((hb.member "groups").items hw)
  rw [ofFields?, Group.ofMember?_eq, toDocument, toCombinator_eq]
  simp only [Option.bind_eq_some_iff, Option.ite_none_right_eq_some, Option.some.injEq]
  constructor
  · rintro ⟨gs, h, hn, rfl⟩
    obtain ⟨hl, rfl⟩ := hgs.mp ⟨h, hn⟩
    exact ⟨hl, rfl⟩
  · rintro ⟨hl, rfl⟩
    obtain ⟨h, hn⟩ := hgs.mpr ⟨hl, rfl⟩
    exact ⟨_, h, hn, rfl⟩

/-- A well-formed value is read as the document that it describes. -/
theorem ofValue_eq_done {v : Value} (hb : v.BytesFree)
    (h : v.IsDocument (some maxIntegerDigits)) : ofValue v = .done v.toDocument := by
  cases v with
  | object fields =>
      obtain ⟨hne, hl⟩ := isDocument_object_iff.mp h
      have hd := (ofFields?_eq_some_iff hb).mpr ⟨hl, rfl⟩
      rw [ofValue]
      split
      · next hnull => exact absurd hnull hne
      · rw [hd]
  | _ => cases h

/-- Any other value is read as the empty document, with a notice. -/
theorem ofValue_eq_unusable {v : Value} (hb : v.BytesFree)
    (h : ¬ v.IsDocument (some maxIntegerDigits)) : ∃ n, ofValue v = unusable n := by
  cases v with
  | object fields =>
      rw [ofValue]
      split
      · exact ⟨_, rfl⟩
      · next hne =>
          have hd : ofFields? fields = none := by
            rw [Option.eq_none_iff_forall_ne_some]
            intro d hd
            exact h (isDocument_object_iff.mpr ⟨hne, ((ofFields?_eq_some_iff hb).mp hd).1⟩)
          rw [hd]
          exact ⟨_, rfl⟩
  | _ => exact ⟨_, rfl⟩

end Document

/-- **Decoded rules are taken as a whole or not at all.**  Those that are well-formed stand for the
document that they describe, without a notice.  The others stand for the empty document, and a
notice says so unless they are null. -/
theorem document_of_wellFormed_rules {rules : Value} (hb : rules.BytesFree)
    (ht : ∀ s, rules ≠ .text s) :
    (rules.IsDocument (some maxIntegerDigits) →
        Document.read rules = .done rules.toDocument) ∧
      (¬ rules.IsDocument (some maxIntegerDigits) →
        (Document.read rules).result = .ok .empty ∧
          ((Document.read rules).notices = [] ↔ rules = .null)) := by
  by_cases hnull : rules = .null
  · subst hnull
    constructor
    · intro h
      exact h.elim
    · intro _
      exact ⟨rfl, iff_of_true rfl rfl⟩
  · have hr : Document.read rules = Document.ofValue rules := by
      cases hb with
      | null => exact absurd rfl hnull
      | text s => exact absurd rfl (ht s)
      | _ => rfl
    rw [hr]
    constructor
    · intro h
      exact Document.ofValue_eq_done hb h
    · intro h
      obtain ⟨n, hn⟩ := Document.ofValue_eq_unusable hb h
      rw [hn]
      exact ⟨rfl, iff_of_false (List.cons_ne_nil n []) hnull⟩

namespace Sample

theorem bytesFree_rules : rules.BytesFree := by simp [rules]

/-- The sample is well-formed, and read as its document. -/
theorem document_of_rules :
    (rules.BytesFree ∧ ∀ s, rules ≠ .text s) ∧ rules.IsDocument (some maxIntegerDigits) ∧
      Document.read rules = .done rules.toDocument ∧ rules.toDocument = document := by
  have ht (s : String) : rules ≠ .text s := by simp [rules]
  have hd : rules.IsDocument (some maxIntegerDigits) := by
    refine ⟨_, rfl, ?_⟩
    simp [IsGroup, IsCondition, FillsText, member, subgroups, lookup?, IsListOf, IsLiteral, maxDepth]
  refine ⟨⟨bytesFree_rules, ht⟩, hd, (document_of_wellFormed_rules bytesFree_rules ht).1 hd, ?_⟩
  simp [rules, document, toDocument, toGroup_object, member, subgroups, lookup?, Value.items,
    textOf, toCondition, toLiteral, toCombinator]
  decide +kernel

/-- Rules whose only group has an id, and nothing else. -/
def identified (id : Value) : Value := .object [("groups", .list [.object [("id", id)]])]

theorem isDocument_identified_iff {maxDigits : Option Nat} {id : Value} :
    (identified id).IsDocument maxDigits ↔ id.FillsText maxDigits := by
  simp [identified, IsDocument, IsGroup, FillsText, member, subgroups, lookup?, IsListOf, maxDepth]

/-- The id is a number, and yet the rules stand for the empty document: the text of the number
would have 4817 digits. -/
theorem identified_long_integer_unusable :
    (identified (.int (16 ^ 4000 : Nat))).BytesFree ∧
      (∀ s, identified (.int (16 ^ 4000 : Nat)) ≠ .text s) ∧
      (identified (.int (16 ^ 4000 : Nat))).IsDocument none ∧
      (Document.read (identified (.int (16 ^ 4000 : Nat)))).result = .ok .empty ∧
      (identified (.int (16 ^ 4000 : Nat))).toDocument ≠ .empty := by
  have hlong : ¬ 16 ^ 4000 < 10 ^ maxIntegerDigits := by decide +kernel
  generalize 16 ^ 4000 = n at hlong ⊢
  have hb : (identified (.int n)).BytesFree := by simp [identified]
  have hnot : ¬ (identified (.int n)).IsDocument (some maxIntegerDigits) := by
    rw [isDocument_identified_iff]
    intro h
    exact hlong (h _ rfl)
  obtain ⟨e, he⟩ := Document.ofValue_eq_unusable hb hnot
  refine ⟨hb, ?_, ?_, congrArg Reported.result he, ?_⟩
  · intro s h
    cases h
  · rw [isDocument_identified_iff]
    intro k hk
    cases hk
  · simp [identified, toDocument, member, lookup?, Value.items, Document.empty]

end Sample

end Verdict
