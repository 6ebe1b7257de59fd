/-
# Rules as text and as a value

The same rules arrive as a JSON text or as the value that the text writes.  On the way through the text a
finite binary64 number becomes a decimal, and on the way through the value it stays one.  Decoding makes
up for it wherever a member may be a number:

| member | a binary64 number | its decimal |
| --- | --- | --- |
| `value` of a condition | the decimal that its text writes | itself |
| `operator` of a document or a group | `AND` | `AND` |
| a member that is not read | of no account | of no account |
| `id`, `label`, `token`, or `operator` of a condition | its text | its scientific text |

The texts of the last row may differ, as `1e+22` and `1E+22` do.  Rules without binary64 numbers there
stand for one document, and are rejected by both ways or by none (`document_of_text`).
-/

import Verdict.Proofs.Decoding
import Verdict.Proofs.JsonReading

namespace Verdict

namespace Value

/-! ### The members that have to be texts -/

/-- Whether a value is no binary64 number. -/
def NotFloat (v : Value) : Prop := ∀ x, v ≠ .float x

/-- The members of the groups of some rules: of those that the rules list, and of those below them. -/
inductive IsGroupOf (rules : List (String × Value)) : List (String × Value) → Prop
  | listed {g : List (String × Value)} (h : .object g ∈ (member "groups" rules).items) :
      IsGroupOf rules g
  | nested {g f : List (String × Value)} (outer : IsGroupOf rules g)
      (h : .object f ∈ (subgroups g).items) : IsGroupOf rules f

/-- Whether no group and no condition of some rules has a binary64 number in place of a text. -/
structure NamedWithoutFloats (rules : List (String × Value)) : Prop where
  group : ∀ g, IsGroupOf rules g → NotFloat (member "id" g) ∧ NotFloat (member "label" g)
  condition : ∀ g, IsGroupOf rules g → ∀ c, .object c ∈ (member "conditions" g).items →
    NotFloat (member "id" c) ∧ NotFloat (member "token" c) ∧ NotFloat (member "operator" c)

/-! ### Members of exact values -/

theorem lookup?_exactFields (name : String) (fields : List (String × Value)) :
    lookup? name (exactFields fields) = (lookup? name fields).map exact := by
  induction fields with
  | nil => rfl
  | cons f r ih =>
      obtain ⟨k, v⟩ := f
      rw [exactFields, lookup?, lookup?]
      split
      · rfl
      · exact ih

theorem member_exactFields (name : String) (fields : List (String × Value)) :
    member name (exactFields fields) = (member name fields).exact := by
  rw [member, member, lookup?_exactFields]
  cases lookup? name fields <;> rfl

theorem subgroups_exactFields (fields : List (String × Value)) :
    subgroups (exactFields fields) = (subgroups fields).exact := by
  rw [subgroups, subgroups, lookup?_exactFields, member_exactFields]
  cases lookup? "groups" fields <;> rfl

/-- A binary64 number becomes a decimal or stays one. -/
theorem exact_float_cases (x : Binary64) :
    (∃ d, (Value.float x).exact = .decimal d) ∨ ∃ y, (Value.float x).exact = .float y := by
  unfold exact
  split
  · exact Or.inl ⟨_, rfl⟩
  · split
    · exact Or.inr ⟨_, rfl⟩
    · exact Or.inr ⟨_, rfl⟩

theorem scalarText?_exact {v : Value} (h : v.NotFloat) : v.exact.scalarText? = v.scalarText? := by
  cases v with
  | float x => exact absurd rfl (h x)
  | _ => rfl

end Value

open Value

/-! ### Decoding exact values -/

/-- **A literal is the same** whether it is read from a binary64 number or from its decimal. -/
theorem Literal.ofValue?_exact (v : Value) : ofValue? v.exact = ofValue? v := by
  cases v with
  | float x =>
      unfold exact
      split
      · next hfinite => rw [ofValue?, ofValue?, if_pos hfinite]
      · next hfinite =>
        split
        · next hnan =>
          have htext : x.text = "nan" := by rw [Binary64.text, if_pos hnan]
          rw [ofValue?, ofValue?, if_neg hfinite, htext]
          rfl
        · rfl
  | _ => rfl

theorem Combinator.ofValue_exact (v : Value) : ofValue v.exact = ofValue v := by
  cases v with
  | float x => rcases exact_float_cases x with ⟨_, h⟩ | ⟨_, h⟩ <;> rw [h] <;> rfl
  | _ => rfl

namespace Condition

theorem ofFields?_exactFields {c : List (String × Value)} (hid : NotFloat (member "id" c))
    (htoken : NotFloat (member "token" c)) (hoperator : NotFloat (member "operator" c)) :
    ofFields? (exactFields c) = ofFields? c := by
  have htext {name : String} (h : NotFloat (member name c)) :
      memberText? name (exactFields c) = memberText? name c := by
    change (member name (exactFields c)).scalarText? = _
    rw [member_exactFields, scalarText?_exact h]
    rfl
  have hvalue : Literal.ofValue? (member "value" (exactFields c)) =
      Literal.ofValue? (member "value" c) := by
    rw [member_exactFields, Literal.ofValue?_exact]
  unfold member at hvalue
  rw [ofFields?, ofFields?, htext hid, htext htoken, htext hoperator, hvalue]

/-- Conditions are the same whether they are read from values or from exact ones, if none of the texts
that they have to have is a binary64 number. -/
theorem ofValues?_exactItems {vs : List Value}
    (h : ∀ c, .object c ∈ vs →
      NotFloat (member "id" c) ∧ NotFloat (member "token" c) ∧ NotFloat (member "operator" c)) :
    ofValues? (exactItems vs) = ofValues? vs := by
  induction vs with
  | nil => rfl
  | cons v r ih =>
      have hv : ofValue? v.exact = ofValue? v := by
        cases v with
        | object c =>
            obtain ⟨hid, htoken, hoperator⟩ := h c List.mem_cons_self
            exact ofFields?_exactFields hid htoken hoperator
        | float x => rcases exact_float_cases x with ⟨_, h⟩ | ⟨_, h⟩ <;> rw [h] <;> rfl
        | _ => rfl
      rw [exactItems, ofValues?, ofValues?, hv, ih fun c hc => h c (List.mem_cons_of_mem _ hc)]

theorem listOfFields?_exactFields {g : List (String × Value)}
    (h : ∀ c, .object c ∈ (member "conditions" g).items →
      NotFloat (member "id" c) ∧ NotFloat (member "token" c) ∧ NotFloat (member "operator" c)) :
    listOfFields? (exactFields g) = listOfFields? g := by
  change (asItems? (member "conditions" (exactFields g))).bind ofValues? =
    (asItems? (member "conditions" g)).bind ofValues?
  rw [member_exactFields]
  generalize member "conditions" g = v at h ⊢
  cases v with
  | list items => exact ofValues?_exactItems h
  | float x => rcases exact_float_cases x with ⟨_, h⟩ | ⟨_, h⟩ <;> rw [h] <;> rfl
  | _ => rfl

end Condition

namespace Group

theorem labelOf?_exact {id : String} {v : Value} (h : v.NotFloat) :
    labelOf? id v.exact = labelOf? id v := by
  cases v with
  | float x => exact absurd rfl (h x)
  | _ => rfl

/-- A list of groups is the same whether it is read from a value or from the exact one, if each of its
groups is. -/
theorem ofItems?_exact {v : Value}
    (h : ∀ g, .object g ∈ v.items → ofValue? (.object (exactFields g)) = ofValue? (.object g)) :
    ofItems? v.exact = ofItems? v := by
  have hvalues : ∀ vs : List Value,
      (∀ g, .object g ∈ vs → ofValue? (.object (exactFields g)) = ofValue? (.object g)) →
        ofValues? (exactItems vs) = ofValues? vs := by
    intro vs
    induction vs with
    | nil => exact fun _ => rfl
    | cons v r ih =>
        intro h
        have hv : ofValue? v.exact = ofValue? v := by
          cases v with
          | object g => exact h g List.mem_cons_self
          | float x => rcases exact_float_cases x with ⟨_, h⟩ | ⟨_, h⟩ <;> rw [h] <;> rfl
          | _ => rfl
        rw [exactItems, ofValues?, ofValues?, hv, ih fun g hg => h g (List.mem_cons_of_mem _ hg)]
  cases v with
  | list items => exact hvalues items h
  | float x => rcases exact_float_cases x with ⟨_, h⟩ | ⟨_, h⟩ <;> rw [h] <;> rfl
  | _ => rfl

/-- **A group is the same** whether it is read from a value or from the exact one. -/
theorem ofValue?_exactFields {rules : List (String × Value)} (h : NamedWithoutFloats rules)
    (g : List (String × Value)) (hg : IsGroupOf rules g) :
    ofValue? (.object (exactFields g)) = ofValue? (.object g) := by
  obtain ⟨hid, hlabel⟩ := h.group g hg
  have hsubgroups : ofItems? (subgroups g).exact = ofItems? (subgroups g) :=
    ofItems?_exact fun f hf => ofValue?_exactFields h f (.nested hg hf)
  rw [ofValue?_object, ofValue?_object, member_exactFields, member_exactFields, member_exactFields,
    subgroups_exactFields, scalarText?_exact hid, Combinator.ofValue_exact,
    Condition.listOfFields?_exactFields (h.condition g hg), hsubgroups]
  simp only [labelOf?_exact hlabel]
termination_by sizeOf g
decreasing_by
  have h₁ := sizeOf_lt_of_mem_items hf
  have h₂ := sizeOf_subgroups_le g
  rw [object.sizeOf_spec] at h₁
  omega

end Group

namespace Document

/-- **A document is the same** whether it is read from a value or from the exact one. -/
theorem ofFields?_exactFields {rules : List (String × Value)} (h : NamedWithoutFloats rules) :
    ofFields? (exactFields rules) = ofFields? rules := by
  have hgroups : Group.ofItems? (member "groups" (exactFields rules)) =
      Group.ofItems? (member "groups" rules) := by
    rw [member_exactFields]
    exact Group.ofItems?_exact fun g hg => Group.ofValue?_exactFields h g (.listed hg)
  have hoperator : Combinator.ofValue (member "operator" (exactFields rules)) =
      Combinator.ofValue (member "operator" rules) := by
    rw [member_exactFields, Combinator.ofValue_exact]
  unfold member at hgroups hoperator
  rw [ofFields?, ofFields?, Group.ofMember?_eq, Group.ofMember?_eq, hgroups, hoperator]

theorem ofValue_exactFields {rules : List (String × Value)} (h : NamedWithoutFloats rules) :
    ofValue (.object (exactFields rules)) = ofValue (.object rules) := by
  have hmember := member_exactFields "groups" rules
  unfold member at hmember
  simp only [ofValue, ofFields?_exactFields h, hmember]
  generalize (lookup? "groups" rules).getD .null = v
  cases v with
  | float x => rcases exact_float_cases x with ⟨_, h⟩ | ⟨_, h⟩ <;> rw [h]
  | _ => rfl

/-- A decoded value always stands for a document. -/
theorem exists_result_ofValue (v : Value) : ∃ d, (ofValue v).result = .ok d := by
  unfold ofValue
  split
  · split
    · exact ⟨_, rfl⟩
    · split <;> exact ⟨_, rfl⟩
  · exact ⟨_, rfl⟩

/-- The text of an object is not blank. -/
theorem ofText_of_writes {fields : List (String × Value)} {s : String}
    (h : Json.Padded (Json.Writes (.object fields)) s.toList) : ofText s = ofChars s.toList := by
  obtain ⟨before, _, after, -, ⟨inside, -, rfl⟩, -, hs⟩ := h
  rw [ofText, if_neg]
  rw [Text.allBlank, hs, List.all_eq_true]
  intro hblank
  have hbrace := hblank '\x7b' (by simp)
  revert hbrace
  decide

end Document

/-- **A JSON text and the value that it writes are the same rules.**  Let an object be one that JSON
knows, with integers of at most `Value.maxIntegerDigits` digits, binary64 numbers, finite or not, no two
members of one name in an object, and a nesting of at most 700, and let none of its groups and conditions
have a binary64 number in place of a text.  Whatever JSON text of it is taken, with any blanks and any
escapes, reading the text and reading the object give the same document, literal by literal, with the
same notices: both accept the rules or both take the empty document for them. -/
theorem document_of_text {rules : List (String × Value)} (hw : (Value.object rules).IsWritten)
    (hdepth : (Value.object rules).nesting ≤ 700) (hnames : Value.NamedWithoutFloats rules) {s : String}
    (hs : Json.Padded (Json.Writes (.object rules)) s.toList) :
    Document.read (.text s) = Document.read (.object rules) ∧
      ∃ d, (Document.read (.object rules)).result = .ok d := by
  refine ⟨?_, Document.exists_result_ofValue _⟩
  have hread := Json.read_of_padded hw (hdepth.trans (by decide)) hs
  calc
    Document.read (.text s) = Document.ofChars s.toList := Document.ofText_of_writes hs
    _ = Document.ofValue (.object (Value.exactFields rules)) := by
      rw [Document.ofChars, hread, Document.ofRead, Value.exact]
    _ = Document.read (.object rules) := Document.ofValue_exactFields hnames

namespace Sample

/-- A group whose literals are binary64 numbers: one that is shown with an exponent, and one that is not
a number. -/
def gauge : List (String × Value) :=
  [("id", .int 7), ("label", .text "a\n\"b\""), ("conditions", .list [
    .object [("token", .text "x"), ("operator", .text ">="),
      ("value", .float (Binary64.ofDecimal ⟨false, 1, 22⟩))],
    .object [("token", .text "y"), ("operator", .text "="), ("value", .float Binary64.nan)]])]

/-- Rules of this group. -/
def gauged : List (String × Value) := [("groups", .list [.object gauge])]

/-- A JSON text of these rules. -/
def gaugedText : String := String.ofList ('\n' :: (Json.written (.object gauged) ++ [' ']))

theorem namedWithoutFloats_gauged : Value.NamedWithoutFloats gauged := by
  have hgroup : ∀ g, Value.IsGroupOf gauged g → g = gauge := by
    intro g hg
    induction hg with
    | listed h => simpa [gauged, Value.member, Value.lookup?, Value.items] using h
    | nested _ h ih => simp [ih, gauge, Value.subgroups, Value.member, Value.lookup?, Value.items] at h
  constructor
  · intro g hg
    simp [hgroup g hg, gauge, Value.member, Value.lookup?, Value.NotFloat]
  · intro g hg c hc
    simp [hgroup g hg, gauge, Value.member, Value.lookup?, Value.items] at hc
    rcases hc with rfl | rfl <;> simp [Value.member, Value.lookup?, Value.NotFloat]

/-- The hypotheses of `document_of_text` are satisfiable: the literals are the same exact values, whether
they are read from `1e+22` and `NaN` or from the numbers. -/
theorem document_of_text_gauged :
    (Value.object gauged).IsWritten ∧ (Value.object gauged).nesting ≤ 700 ∧
      Json.Padded (Json.Writes (.object gauged)) gaugedText.toList ∧
      (Document.read (.text gaugedText)).result.toOption.map Document.literals =
        some [.decimal ⟨false, 1, 22⟩, .text "nan"] := by
  have hw : (Value.object gauged).IsWritten := by
    have hid : (Value.int 7).IsWritten := .int (by decide +kernel)
    simp [gauged, gauge, hid]
  have hdepth : (Value.object gauged).nesting ≤ 700 := by decide +kernel
  have hs : Json.Padded (Json.Writes (.object gauged)) gaugedText.toList := by
    refine ⟨['\n'], _, [' '], ?_, Json.writes_written (.object gauged) rfl, ?_, String.toList_ofList⟩
    · exact List.forall_mem_singleton.mpr rfl
    · exact List.forall_mem_singleton.mpr rfl
  refine ⟨hw, hdepth, hs, ?_⟩
  rw [(document_of_text hw hdepth namedWithoutFloats_gauged hs).1]
  decide +kernel

end Sample

end Verdict
