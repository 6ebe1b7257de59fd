/-
# What decoding accepts

Decoding takes a group, or a condition, exactly when it is well-formed, and gives what it describes
(`Group.ofValue?_eq_some_iff`, `Condition.ofValue?_eq_some_iff`).  Byte strings are left out here: a
text field takes those that are UTF-8.
-/

import Verdict.Criteria.Reading
import Verdict.Proofs.WellFormed

namespace Verdict

namespace Value

theorem mem_of_lookup {name : String} {v : Value} {fields : List (String × Value)}
    (h : lookup? name fields = some v) : ∃ f ∈ fields, f.2 = v := by
  induction fields with
  | nil => cases h
  | cons f r ih =>
      obtain ⟨k, w⟩ := f
      unfold lookup? at h
      split at h
      · exact ⟨_, List.mem_cons_self .., Option.some.inj h⟩
      · obtain ⟨f, hf, hv⟩ := ih h
        exact ⟨f, List.mem_cons_of_mem _ hf, hv⟩

/-- A member of an object is null or one of its values. -/
theorem member_cases (name : String) (fields : List (String × Value)) :
    member name fields = .null ∨ ∃ f ∈ fields, f.2 = member name fields := by
  unfold member
  cases h : lookup? name fields with
  | none => exact Or.inl rfl
  | some v => exact Or.inr (mem_of_lookup h)

theorem subgroups_cases (fields : List (String × Value)) :
    subgroups fields = .null ∨ ∃ f ∈ fields, f.2 = subgroups fields := by
  unfold subgroups
  cases h : lookup? "groups" fields with
  | none => exact member_cases "subgroups" fields
  | some v => exact Or.inr (mem_of_lookup h)

namespace BytesFree

theorem member {fields : List (String × Value)} (hb : BytesFree (.object fields)) (name : String) :
    BytesFree (member name fields) := by
  rcases member_cases name fields with hnull | ⟨f, hf, hv⟩
  · exact hnull ▸ .null
  · exact hv ▸ bytesFree_object.mp hb f hf

theorem subgroups {fields : List (String × Value)} (hb : BytesFree (.object fields)) :
    BytesFree (subgroups fields) := by
  rcases subgroups_cases fields with hnull | ⟨f, hf, hv⟩
  · exact hnull ▸ .null
  · exact hv ▸ bytesFree_object.mp hb f hf

theorem items {v w : Value} (hb : v.BytesFree) (h : w ∈ v.items) : w.BytesFree := by
  cases hb with
  | list hitems => exact hitems w h
  | _ => cases h

end BytesFree

/-- A text field takes the values that it should, and shows each by its text. -/
theorem scalarText?_eq_some_iff {v : Value} (hb : v.BytesFree) {s : String} :
    v.scalarText? = some s ↔ v.FillsText (some maxIntegerDigits) ∧ v.textOf = s := by
  cases hb with
  | int n =>
      rw [scalarText?, Option.ite_none_right_eq_some, Option.some.injEq,
        digitCount_le_iff _ (by decide)]
      simp only [FillsText, textOf, Option.mem_some_iff, forall_eq']
  | _ => simp [scalarText?, asText?, FillsText, textOf]

theorem upperChar_eq_iff (c : Char) :
    (Text.upperChar c = 'O' ↔ c.toLower = 'o') ∧ (Text.upperChar c = 'R' ↔ c.toLower = 'r') := by
  have ascii : ∀ n < 128,
      (Text.upperChar (.ofNat n) = 'O' ↔ (Char.ofNat n).toLower = 'o') ∧
        (Text.upperChar (.ofNat n) = 'R' ↔ (Char.ofNat n).toLower = 'r') := by decide +kernel
  by_cases hc : c.toNat < 128
  · simpa only [Char.ofNat_toNat] using ascii c.toNat hc
  · have hu : Text.upperChar c = c := by
      unfold Text.upperChar
      rw [if_neg]
      simp only [Bool.and_eq_true, decide_eq_true_eq]
      omega
    have hl : c.toLower = c := by
      unfold Char.toLower
      rw [dif_neg]
      rintro ⟨-, h⟩
      have : c.toNat ≤ 'Z'.toNat := h
      have hz : 'Z'.toNat = 90 := rfl
      omega
    have ne (d : Char) (hd : d.toNat < 128) : c ≠ d := by
      rintro rfl
      exact hc hd
    rw [hu, hl]
    exact ⟨iff_of_false (ne _ (by decide)) (ne _ (by decide)),
      iff_of_false (ne _ (by decide)) (ne _ (by decide))⟩

theorem toCombinator_eq (v : Value) : v.toCombinator = Combinator.ofValue v := by
  cases v with
  | text s =>
      have h : (Text.trim s.toList).map Char.toLower = ['o', 'r'] ↔
          Text.upper (Text.trim s.toList) = ['O', 'R'] := by
        rw [Text.upper]
        match Text.trim s.toList with
        | [] => simp
        | [a] => simp
        | [a, b] =>
            simp only [List.map_cons, List.map_nil, List.cons.injEq, and_true,
              (upperChar_eq_iff a).1, (upperChar_eq_iff b).2]
        | a :: b :: c :: r => simp
      simp only [toCombinator, Combinator.ofValue, Combinator.ofText, h]
  | _ => rfl

end Value

open Value

/-- The value of a literal member is taken exactly when it should be. -/
theorem Literal.ofValue?_eq_some_iff {v : Value} (hb : v.BytesFree) {l : Literal} :
    ofValue? v = some l ↔ v.IsLiteral ∧ v.toLiteral = l := by
  cases hb with
  | decimal d => cases d <;> simp [ofValue?, IsLiteral, toLiteral]
  | _ => simp [ofValue?, IsLiteral, toLiteral]

namespace Condition

/-- **A condition is taken exactly when it is well-formed,** and is what it describes. -/
theorem ofValue?_eq_some_iff {v : Value} (hb : v.BytesFree) {c : Condition} :
    ofValue? v = some c ↔ v.IsCondition (some maxIntegerDigits) ∧ v.toCondition = c := by
  cases v with
  | object fields =>
      have ht (name : String) (s : String) := scalarText?_eq_some_iff (hb.member name) (s := s)
      have hv (l : Literal) := Literal.ofValue?_eq_some_iff (hb.member "value") (l := l)
      simp only [member] at ht hv
      simp only [ofValue?, ofFields?, memberText?, Option.bind_eq_bind, Option.bind_eq_some_iff,
        ht, hv, IsCondition, toCondition, member, Option.pure_def, Option.some.injEq]
      constructor
      · rintro ⟨_, ⟨h₁, rfl⟩, _, ⟨h₂, rfl⟩, _, ⟨h₃, rfl⟩, _, ⟨h₄, rfl⟩, rfl⟩
        exact ⟨⟨h₁, h₂, h₃, h₄⟩, rfl⟩
      · rintro ⟨⟨h₁, h₂, h₃, h₄⟩, rfl⟩
        exact ⟨_, ⟨h₁, rfl⟩, _, ⟨h₂, rfl⟩, _, ⟨h₃, rfl⟩, _, ⟨h₄, rfl⟩, rfl⟩
  | _ => simp [ofValue?, IsCondition]

/-- A list of conditions is taken exactly when all of them are well-formed. -/
theorem ofValues?_eq_some_iff {vs : List Value} (hb : ∀ v ∈ vs, v.BytesFree)
    {cs : List Condition} :
    ofValues? vs = some cs ↔
      (∀ v ∈ vs, v.IsCondition (some maxIntegerDigits)) ∧ vs.map toCondition = cs := by
  induction vs generalizing cs with
  | nil => simp [ofValues?]
  | cons v r ih =>
      rw [List.forall_mem_cons] at hb
      simp only [ofValues?, Option.bind_eq_bind, Option.bind_eq_some_iff, Option.pure_def,
        Option.some.injEq, ofValue?_eq_some_iff hb.1, ih hb.2, List.forall_mem_cons,
        List.map_cons]
      constructor
      · rintro ⟨_, ⟨hv, rfl⟩, _, ⟨hr, rfl⟩, rfl⟩
        exact ⟨⟨hv, hr⟩, rfl⟩
      · rintro ⟨⟨hv, hr⟩, rfl⟩
        exact ⟨_, ⟨hv, rfl⟩, _, ⟨hr, rfl⟩, rfl⟩

/-- A member that lists conditions is taken exactly when it lists well-formed ones. -/
theorem listOfFields?_eq_some_iff {fields : List (String × Value)}
    (hb : BytesFree (.object fields)) {cs : List Condition} :
    listOfFields? fields = some cs ↔
      (member "conditions" fields).IsListOf (IsCondition (some maxIntegerDigits)) ∧
        (member "conditions" fields).items.map toCondition = cs := by
  have hm := hb.member "conditions"
  rw [listOfFields?]
  change (asItems? (member "conditions" fields)).bind _ = _ ↔ _
  generalize member "conditions" fields = v at hm ⊢
  cases v with
  | null => simp [asItems?, IsListOf, ofValues?, Value.items]
  | list items => exact ofValues?_eq_some_iff fun v hv => hm.items hv
  | _ => simp [asItems?, IsListOf]

end Condition

namespace Group

/-- The label of a group is taken exactly when it should be, and is the id where it is blank. -/
theorem labelOf?_eq_some_iff {id : String} {v : Value} (hb : v.BytesFree) {l : String} :
    labelOf? id v = some l ↔
      v.FillsText (some maxIntegerDigits) ∧
        (if Text.allBlank v.textOf then id else v.textOf) = l := by
  have h : labelOf? id v = v.scalarText?.map fun s => if Text.allBlank s then id else s := by
    cases hb <;> rfl
  rw [h, Option.map_eq_some_iff]
  simp only [scalarText?_eq_some_iff hb, and_assoc, exists_and_left, exists_eq_left']

/-- A group is taken when its four members with a type are. -/
theorem ofValue?_object (fields : List (String × Value)) :
    ofValue? (.object fields) =
      (member "id" fields).scalarText?.bind fun id =>
        (labelOf? id (member "label" fields)).bind fun label =>
          (Condition.listOfFields? fields).bind fun conditions =>
            (ofItems? (subgroups fields)).bind fun groups =>
              some ⟨id, label, Combinator.ofValue (member "operator" fields), conditions, groups⟩ := by
  have hg : ofItems? (subgroups fields) =
      if (lookup? "groups" fields).isSome then ofMember? "groups" fields
        else ofMember? "subgroups" fields := by
    rw [ofMember?_eq, ofMember?_eq, subgroups, member]
    cases lookup? "groups" fields <;> rfl
  rw [hg, ofValue?]
  split <;> rfl

/-- A list of values is taken as groups when each of them is. -/
theorem ofValues?_eq_some_iff_of {n : Nat} {vs : List Value}
    (h : ∀ v ∈ vs, ∀ g, (ofValue? v = some g ∧ g.depth ≤ n) ↔
      v.IsGroup (some maxIntegerDigits) n ∧ v.toGroup = g) {gs : List Group} :
    (ofValues? vs = some gs ∧ depths gs ≤ n) ↔
      (∀ v ∈ vs, v.IsGroup (some maxIntegerDigits) n) ∧ vs.map toGroup = gs := by
  induction vs generalizing gs with
  | nil =>
      simp only [ofValues?, Option.some.injEq, List.not_mem_nil, false_imp_iff, implies_true,
        List.map_nil, true_and, and_iff_left_iff_imp]
      rintro rfl
      exact Nat.zero_le n
  | cons v r ih =>
      rw [List.forall_mem_cons] at h
      rw [ofValues?, List.forall_mem_cons, List.map_cons]
      simp only [Option.bind_eq_bind, Option.bind_eq_some_iff, Option.pure_def,
        Option.some.injEq]
      constructor
      · rintro ⟨⟨g, hg, gs, hgs, rfl⟩, hn⟩
        rw [depths, Nat.max_le] at hn
        obtain ⟨hv, rfl⟩ := (h.1 g).mp ⟨hg, hn.1⟩
        obtain ⟨hr, rfl⟩ := (ih h.2).mp ⟨hgs, hn.2⟩
        exact ⟨⟨hv, hr⟩, rfl⟩
      · rintro ⟨⟨hv, hr⟩, rfl⟩
        obtain ⟨hg, hgn⟩ := (h.1 _).mpr ⟨hv, rfl⟩
        obtain ⟨hgs, hgsn⟩ := (ih h.2).mpr ⟨hr, rfl⟩
        rw [depths, Nat.max_le]
        exact ⟨⟨_, hg, _, hgs, rfl⟩, hgn, hgsn⟩

/-- A value is taken as a list of groups when each of its items is taken as one. -/
theorem ofItems?_eq_some_iff_of {n : Nat} {v : Value}
    (h : ∀ w ∈ v.items, ∀ g, (ofValue? w = some g ∧ g.depth ≤ n) ↔
      w.IsGroup (some maxIntegerDigits) n ∧ w.toGroup = g) {gs : List Group} :
    (ofItems? v = some gs ∧ depths gs ≤ n) ↔
      v.IsListOf (IsGroup (some maxIntegerDigits) n) ∧ v.items.map toGroup = gs := by
  cases v with
  | null =>
      have hnil : (ofValues? [] = some gs ∧ depths gs ≤ n) ↔ _ := ofValues?_eq_some_iff_of h
      refine hnil.trans ?_
      simp [IsListOf, Value.items]
  | list items => exact ofValues?_eq_some_iff_of h
  | _ => simp [ofItems?, IsListOf]

theorem depth_eq (g : Group) : g.depth = depths g.groups + 1 := by
  cases g
  rw [depth]

/-- **A group is taken, and its chains are short enough,** exactly when it is well-formed.  It is
then what the value describes. -/
theorem ofValue?_eq_some_iff {v : Value} (hb : v.BytesFree) {n : Nat} {g : Group} :
    (ofValue? v = some g ∧ g.depth ≤ n) ↔
      v.IsGroup (some maxIntegerDigits) n ∧ v.toGroup = g := by
  induction n generalizing v g with
  | zero =>
      refine iff_of_false ?_ fun h => h.1
      rintro ⟨-, hn⟩
      rw [depth_eq] at hn
      omega
  | succ n ih =>
      cases v with
      | object fields =>
          have hgs {gs : List Group} :
              (ofItems? (subgroups fields) = some gs ∧ depths gs ≤ n) ↔ _ :=
            ofItems?_eq_some_iff_of fun w hw g => ih (hb.subgroups.items hw)
          rw [ofValue?_object, toGroup_object, IsGroup, toCombinator_eq]
          simp only [Option.bind_eq_some_iff, Option.some.injEq,
            scalarText?_eq_some_iff (hb.member "id"), labelOf?_eq_some_iff (hb.member "label"),
            Condition.listOfFields?_eq_some_iff hb]
          constructor
          · rintro ⟨⟨_, ⟨h₁, rfl⟩, _, ⟨h₂, rfl⟩, _, ⟨h₃, rfl⟩, gs, h₄, rfl⟩, hn⟩
            rw [depth_eq, Nat.add_le_add_iff_right] at hn
            obtain ⟨h₅, rfl⟩ := hgs.mp ⟨h₄, hn⟩
            exact ⟨⟨h₁, h₂, h₃, h₅⟩, rfl⟩
          · rintro ⟨⟨h₁, h₂, h₃, h₄⟩, rfl⟩
            obtain ⟨h₅, hn⟩ := hgs.mpr ⟨h₄, rfl⟩
            rw [depth_eq, Nat.add_le_add_iff_right]
            exact ⟨⟨_, ⟨h₁, rfl⟩, _, ⟨h₂, rfl⟩, _, ⟨h₃, rfl⟩, _, h₅, rfl⟩, hn⟩
      | _ => simp [ofValue?, IsGroup]

end Group

end Verdict
