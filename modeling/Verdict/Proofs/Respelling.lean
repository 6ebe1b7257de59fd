/-
# Rules and facts in other letter case

Rules and facts can be respelt: a text among the facts, a literal, and the operators of conditions, groups
and documents may be replaced by texts of the same folding.  What a text names may depend on its letter
case where it has a form of an s, so there the respelling has to keep that (`Text.Recased`):

| part | is respelt by |
| --- | --- |
| a text among the facts, a literal | a text that reads as the same truth value |
| the operator of a condition | a text that names the same comparison |
| the operator of a group or a document | any text of the same folding |

Then every condition passes alike, and so do the groups and the document (`respelling_changes_nothing`).
-/

import Verdict.Proofs.EchoedFacts
import Verdict.Proofs.LetterCase
import Verdict.Proofs.Totality

namespace Verdict

open Text

/-! ### Respelling texts -/

/-- Whether two texts have one folding, and name the same thing: their folding names none, or both or
neither of them have a form of an s. -/
structure Text.Recased {α : Type} (read : String → Option α) (s t : String) : Prop where
  fold_eq : fold s = fold t
  forms : (HasFormOfS s ↔ HasFormOfS t) ∨ read (foldedWord s) = none

theorem Text.Recased.rfl {α : Type} {read : String → Option α} {s : String} : Recased read s s :=
  ⟨Eq.refl _, Or.inl Iff.rfl⟩

/-- Whether two values are the same, or texts of which one is the other respelt. -/
def Value.Recased (v w : Value) : Prop :=
  v = w ∨ ∃ s t, v = .text s ∧ w = .text t ∧ Text.Recased Content.wordFor? s t

namespace Content

/-- Whether two contents read alike: as null, as a truth value, as a number and as a folded text. -/
structure ReadAlike (a b : Content) : Prop where
  null : a = .null ↔ b = .null
  boolean : a.boolean? = b.boolean?
  number : a.number? = b.number?
  text : fold a.text = fold b.text

theorem ReadAlike.rfl {a : Content} : a.ReadAlike a := ⟨Iff.rfl, Eq.refl _, Eq.refl _, Eq.refl _⟩

theorem readAlike_of_recased {v w : Value} (h : v.Recased w) : (Content.of v).ReadAlike (Content.of w) := by
  obtain rfl | ⟨s, t, rfl, rfl, h⟩ := h
  · exact .rfl
  · obtain ⟨hnumber, -, hboolean, -⟩ := readings_of_fold_eq h.fold_eq
    exact ⟨iff_of_false (by simp [Content.of]) (by simp [Content.of]), hboolean.mpr h.forms, hnumber,
      h.fold_eq⟩

/-- **Equality looks at the readings alone.** -/
theorem equal_of_readAlike {a a' b b' : Content} (ha : a.ReadAlike a') (hb : b.ReadAlike b') :
    a.equal b = a'.equal b' := by
  have hnull (c : Content) : Content.equal .null c = decide (c = .null) := by cases c <;> rfl
  by_cases ha₀ : a = .null
  · have ha₁ := ha.null.mp ha₀
    rw [ha₀, ha₁, hnull, hnull, decide_eq_decide]
    exact hb.null
  by_cases hb₀ : b = .null
  · have hb₁ := hb.null.mp hb₀
    rw [hb₀, hb₁, equal_comm, equal_comm a', hnull, hnull, decide_eq_decide]
    exact ha.null
  rw [equal_eq ha₀ hb₀, equal_eq (mt ha.null.mpr ha₀) (mt hb.null.mpr hb₀), ha.boolean, hb.boolean,
    ha.number, hb.number, ha.text, hb.text]

/-- **So does any comparison.** -/
theorem holds_of_readAlike (op : Comparison) {a a' b b' : Content} (ha : a.ReadAlike a')
    (hb : b.ReadAlike b') : op.holds a b = op.holds a' b' := by
  have hequal := equal_of_readAlike ha hb
  cases op with
  | equals => exact hequal
  | notEquals => exact congrArg not hequal
  | _ =>
      rw [Comparison.holds_of_isOrdering (by trivial), Comparison.holds_of_isOrdering (by trivial),
        value?, value?, value?, value?, ha.number, hb.number]

end Content

/-! ### Respelling conditions and facts -/

/-- Whether a condition is another with its operator and its literal respelt. -/
structure Condition.Recased (c c' : Condition) : Prop where
  id : c'.id = c.id
  token : c'.token = c.token
  operator : Text.Recased Comparison.wordFor? c.operator c'.operator
  value : c.value.toValue.Recased c'.value.toValue

/-- Whether a member of facts is another with its text respelt. -/
def Value.MemberRecased (f f' : String × Value) : Prop := f.1 = f'.1 ∧ f.2.Recased f'.2

/-- A line without the spelling of its operator and of its values. -/
def Line.unspelt (l : Line) : Line := { l with op := "", expected := .null, actual := .null }

theorem Condition.Recased.rfl {c : Condition} : c.Recased c :=
  ⟨Eq.refl _, Eq.refl _, .rfl, Or.inl (Eq.refl _)⟩

section
variable {facts facts' : FactTable}
  (hf : ∀ token, (facts.lookup token).content.ReadAlike (facts'.lookup token).content)
include hf

/-- **A condition that is respelt holds alike.** -/
theorem Condition.holds_of_recased {c c' : Condition} (h : c.Recased c') :
    c.holds facts = c'.holds facts' := by
  obtain ⟨-, -, -, hoperator⟩ := readings_of_fold_eq h.operator.fold_eq
  have hcomparison : c.comparison? = c'.comparison? := hoperator.mpr h.operator.forms
  have hvalue := Content.readAlike_of_recased h.value
  unfold holds accepts
  rw [h.token, hcomparison]
  cases c'.comparison? with
  | none => rfl
  | some op => exact Content.holds_of_readAlike op (hf c.token) hvalue

theorem Condition.lookAlike_of_recased (labels : Labels) {c c' : Condition} (h : c.Recased c') :
    c.LookAlike Line.unspelt labels facts facts' c' := by
  refine lookAlike_of_lines (fun _ => rfl) fun index path => ?_
  have hholds := holds_of_recased hf h
  unfold line?
  dsimp only
  rw [h.token, hholds]
  cases labels.text? c.token <;> cases Line.index? index <;> rfl

end

/-! ### Respelling rules -/

/-- Whether a member of a condition is another, or a text in its operator or its value respelt. -/
def Condition.MemberRespelt (name : String) (v w : Value) : Prop :=
  v = w ∨ ∃ s t, v = .text s ∧ w = .text t ∧
    (name = "operator" ∧ Text.Recased Comparison.wordFor? s t ∨
      name = "value" ∧ Text.Recased Content.wordFor? s t)

/-- Whether the value of a condition is another one, respelt. -/
def Condition.Respelt (v w : Value) : Prop :=
  v = w ∨ ∃ fields fields', v = .object fields ∧ w = .object fields' ∧
    List.Forall₂ (fun f f' => f.1 = f'.1 ∧ MemberRespelt f.1 f.2 f'.2) fields fields'

section
variable {α β γ δ : Type} {R : α → β → Prop} {S : γ → δ → Prop}

theorem rel_of_eq {R : α → α → Prop} (hR : ∀ a, R a a) {x y : Option α} (h : x = y) :
    Option.Rel R x y := by
  subst h
  cases x with
  | none => exact .none
  | some a => exact .some (hR a)

/-- What is read in two steps is related if each of the steps is. -/
theorem rel_bind {x : Option α} {y : Option β} {f : α → Option γ} {g : β → Option δ}
    (h : Option.Rel R x y) (hfg : ∀ a b, R a b → Option.Rel S (f a) (g b)) :
    Option.Rel S (x.bind f) (y.bind g) := by
  cases h with
  | none => exact .none
  | some h => exact hfg _ _ h

end

/-- Members of one object after the other are related by their names. -/
theorem Value.member_of_forall₂ {R : String → Value → Value → Prop} (hnull : ∀ name, R name .null .null)
    {fields fields' : List (String × Value)}
    (h : List.Forall₂ (fun f f' => f.1 = f'.1 ∧ R f.1 f.2 f'.2) fields fields') (name : String) :
    R name (member name fields) (member name fields') := by
  induction h with
  | nil => exact hnull name
  | @cons f f' r r' hf _ ih =>
      obtain ⟨k, v⟩ := f
      obtain ⟨k', v'⟩ := f'
      obtain ⟨rfl, hv⟩ := hf
      rw [member, member, lookup?, lookup?]
      by_cases hk : k = name
      · subst hk
        rw [if_pos rfl, if_pos rfl]
        exact hv
      · rw [if_neg hk, if_neg hk]
        exact ih

theorem Value.isSome_lookup?_of_forall₂ {R : String → Value → Value → Prop}
    {fields fields' : List (String × Value)}
    (h : List.Forall₂ (fun f f' => f.1 = f'.1 ∧ R f.1 f.2 f'.2) fields fields') (name : String) :
    (lookup? name fields).isSome = (lookup? name fields').isSome := by
  induction h with
  | nil => rfl
  | @cons f f' r r' hf _ ih =>
      obtain ⟨k, v⟩ := f
      obtain ⟨k', v'⟩ := f'
      obtain ⟨rfl, -⟩ := hf
      rw [lookup?, lookup?]
      split
      · rfl
      · exact ih

namespace Condition

variable {name : String} {v w : Value}

theorem MemberRespelt.eq (h : MemberRespelt name v w) (hoperator : name ≠ "operator")
    (hvalue : name ≠ "value") : v = w := by
  rcases h with h | ⟨s, t, -, -, ⟨hname, -⟩ | ⟨hname, -⟩⟩
  · exact h
  · exact absurd hname hoperator
  · exact absurd hname hvalue

/-- A text field that is respelt holds a text that is respelt. -/
theorem rel_scalarText? (h : MemberRespelt "operator" v w) :
    Option.Rel (Text.Recased Comparison.wordFor?) v.scalarText? w.scalarText? := by
  rcases h with rfl | ⟨s, t, rfl, rfl, ⟨-, h⟩ | ⟨hname, -⟩⟩
  · exact rel_of_eq (fun _ => .rfl) rfl
  · exact .some h
  · exact absurd hname (by decide)

theorem rel_literal? (h : MemberRespelt "value" v w) :
    Option.Rel (fun l l' : Literal => l.toValue.Recased l'.toValue) (Literal.ofValue? v)
      (Literal.ofValue? w) := by
  rcases h with rfl | ⟨s, t, rfl, rfl, ⟨hname, -⟩ | ⟨-, h⟩⟩
  · exact rel_of_eq (R := fun l l' : Literal => l.toValue.Recased l'.toValue) (fun _ => Or.inl rfl) rfl
  · exact absurd hname (by decide)
  · exact .some (Or.inr ⟨s, t, rfl, rfl, h⟩)

/-- **The value of a condition that is respelt describes a condition that is respelt,** or both describe
none. -/
theorem rel_ofValue? (h : Respelt v w) : Option.Rel Recased (ofValue? v) (ofValue? w) := by
  rcases h with rfl | ⟨fields, fields', rfl, rfl, h⟩
  · exact rel_of_eq (fun _ => .rfl) rfl
  have hmember := Value.member_of_forall₂ (fun _ => Or.inl rfl) h
  have hid := (hmember "id").eq (by decide) (by decide)
  have htoken := (hmember "token").eq (by decide) (by decide)
  have hoperator := rel_scalarText? (hmember "operator")
  have hvalue := rel_literal? (hmember "value")
  refine rel_bind (rel_of_eq (fun _ => rfl) (congrArg Value.scalarText? hid)) ?_
  rintro id _ rfl
  refine rel_bind (rel_of_eq (fun _ => rfl) (congrArg Value.scalarText? htoken)) ?_
  rintro token _ rfl
  refine rel_bind hoperator fun operator operator' hoperator => ?_
  exact rel_bind hvalue fun value value' hvalue => .some ⟨rfl, rfl, hoperator, hvalue⟩

/-- So do lists of them. -/
theorem rel_ofValues? {vs ws : List Value} (h : List.Forall₂ Respelt vs ws) :
    Option.Rel (List.Forall₂ Recased) (ofValues? vs) (ofValues? ws) := by
  induction h with
  | nil => exact .some .nil
  | cons h _ ih =>
      refine rel_bind (rel_ofValue? h) fun c c' hc => ?_
      exact rel_bind ih fun cs cs' hcs => .some (.cons hc hcs)

end Condition

namespace Group

mutual

/-- Whether the value of a group is another one, respelt. -/
def Respelt : Value → Value → Prop
  | .object fields, .object fields' => MembersRespelt fields fields'
  | v, w => v = w

/-- Whether the members of a group, or of a document, are others, respelt. -/
def MembersRespelt : List (String × Value) → List (String × Value) → Prop
  | [], [] => True
  | (k, v) :: r, (k', v') :: r' => k = k' ∧ MemberRespelt k v v' ∧ MembersRespelt r r'
  | _, _ => False

/-- Whether a member of a group is another, or what it lists is respelt, or its operator is. -/
def MemberRespelt (name : String) : Value → Value → Prop
  | .list items, .list items' =>
    items = items' ∨ name = "conditions" ∧ List.Forall₂ Condition.Respelt items items' ∨
      (name = "groups" ∨ name = "subgroups") ∧ ItemsRespelt items items'
  | .text s, .text t => s = t ∨ name = "operator" ∧ fold s = fold t
  | v, w => v = w

/-- Whether the values of groups are others, respelt one by one. -/
def ItemsRespelt : List Value → List Value → Prop
  | [], [] => True
  | v :: r, v' :: r' => Respelt v v' ∧ ItemsRespelt r r'
  | _, _ => False

end

/-- Groups that match but for the spelling in their conditions. -/
abbrev Alike : Group → Group → Prop := Matches keepLabel Condition.Recased

theorem alike_self (g : Group) : g.Alike g :=
  Matches.imp g g (matches_self g) fun _ _ _ h => h ▸ .rfl

theorem allAlike_self (gs : List Group) : AllMatch keepLabel Condition.Recased gs gs :=
  allMatch_iff_forall₂.mpr (List.forall₂_same.mpr fun g _ => alike_self g)

theorem membersRespelt_iff_forall₂ {fields fields' : List (String × Value)} :
    MembersRespelt fields fields' ↔
      List.Forall₂ (fun f f' => f.1 = f'.1 ∧ MemberRespelt f.1 f.2 f'.2) fields fields' := by
  induction fields generalizing fields' with
  | nil => cases fields' <;> simp [MembersRespelt]
  | cons f r ih =>
      cases fields' with
      | nil => simp [MembersRespelt]
      | cons f' r' =>
          obtain ⟨k, v⟩ := f
          obtain ⟨k', v'⟩ := f'
          rw [MembersRespelt, List.forall₂_cons, ih, and_assoc]

/-- Members that are respelt are so under each name. -/
theorem MembersRespelt.member {fields fields' : List (String × Value)} (h : MembersRespelt fields fields')
    (name : String) : MemberRespelt name (Value.member name fields) (Value.member name fields') := by
  have hnull (name : String) : MemberRespelt name .null .null := by simp [MemberRespelt]
  exact Value.member_of_forall₂ hnull (membersRespelt_iff_forall₂.mp h) name

section
variable {name : String} {v w : Value}

/-- Only what a group lists, and its operator, is respelt. -/
theorem MemberRespelt.eq (h : MemberRespelt name v w) (hoperator : name ≠ "operator")
    (hconditions : name ≠ "conditions") (hgroups : ¬ (name = "groups" ∨ name = "subgroups")) : v = w := by
  unfold MemberRespelt at h
  split at h
  · rcases h with h | ⟨hname, -⟩ | ⟨hname, -⟩
    · rw [h]
    · exact absurd hname hconditions
    · exact absurd hname hgroups
  · rcases h with h | ⟨hname, -⟩
    · rw [h]
    · exact absurd hname hoperator
  · exact h

/-- **An operator that is respelt** names the same combinator. -/
theorem combinator_of_memberRespelt (h : MemberRespelt "operator" v w) :
    Combinator.ofValue v = Combinator.ofValue w := by
  unfold MemberRespelt at h
  split at h
  · rfl
  · rcases h with rfl | ⟨-, h⟩
    · rfl
    · exact (readings_of_fold_eq h).2.1
  · rw [h]

/-- **The conditions of a group that is respelt** are respelt. -/
theorem rel_conditions? (h : MemberRespelt "conditions" v w) :
    Option.Rel (List.Forall₂ Condition.Recased) (v.asItems?.bind Condition.ofValues?)
      (w.asItems?.bind Condition.ofValues?) := by
  have hself (v : Value) : Option.Rel (List.Forall₂ Condition.Recased)
      (v.asItems?.bind Condition.ofValues?) (v.asItems?.bind Condition.ofValues?) :=
    rel_of_eq (fun _ => List.forall₂_same.mpr fun _ _ => .rfl) rfl
  unfold MemberRespelt at h
  split at h
  · rcases h with rfl | ⟨-, h⟩ | ⟨hname, -⟩
    · exact hself _
    · exact Condition.rel_ofValues? h
    · exact absurd hname (by decide)
  · rcases h with rfl | ⟨hname, -⟩
    · exact hself _
    · exact absurd hname (by decide)
  · subst h
    exact hself v

end

/-- **The members of a group that is respelt describe a group that is respelt** if their groups do. -/
theorem rel_ofFields? {fields fields' : List (String × Value)} (h : MembersRespelt fields fields')
    (hgroups : ∀ name, name = "groups" ∨ name = "subgroups" →
      Option.Rel (AllMatch keepLabel Condition.Recased) (ofMember? name fields)
        (ofMember? name fields')) :
    Option.Rel Alike (ofValue? (.object fields)) (ofValue? (.object fields')) := by
  have hid := (h.member "id").eq (by decide) (by decide) (by decide)
  have hlabel := (h.member "label").eq (by decide) (by decide) (by decide)
  have hoperator := combinator_of_memberRespelt (h.member "operator")
  have hconditions := rel_conditions? (h.member "conditions")
  have hsome := Value.isSome_lookup?_of_forall₂ (membersRespelt_iff_forall₂.mp h) "groups"
  rw [ofValue?, ofValue?]
  refine rel_bind (rel_of_eq (fun _ => rfl) (congrArg Value.scalarText? hid)) ?_
  rintro id _ rfl
  refine rel_bind (rel_of_eq (fun _ => rfl) (congrArg (labelOf? id) hlabel)) ?_
  rintro label _ rfl
  refine rel_bind hconditions fun conditions conditions' hconditions => ?_
  rw [hsome]
  split
  · exact rel_bind (hgroups "groups" (Or.inl rfl)) fun groups groups' hgroups =>
      .some ⟨rfl, rfl, hoperator.symm, hconditions, hgroups⟩
  · exact rel_bind (hgroups "subgroups" (Or.inr rfl)) fun groups groups' hgroups =>
      .some ⟨rfl, rfl, hoperator.symm, hconditions, hgroups⟩

/-- A value that is respelt is the same, or an object whose members are respelt. -/
theorem Respelt.cases {v w : Value} (h : Respelt v w) :
    v = w ∨ ∃ fields fields', v = .object fields ∧ w = .object fields' ∧ MembersRespelt fields fields' := by
  unfold Respelt at h
  split at h
  · exact Or.inr ⟨_, _, rfl, rfl, h⟩
  · exact Or.inl h

/-- A member that lists groups and is respelt is the same, or lists groups that are respelt. -/
theorem MemberRespelt.cases {name : String} (hname : name = "groups" ∨ name = "subgroups") {v w : Value}
    (h : MemberRespelt name v w) :
    v = w ∨ ∃ items items', v = .list items ∧ w = .list items' ∧ ItemsRespelt items items' := by
  have hne : name ≠ "operator" ∧ name ≠ "conditions" := by rcases hname with rfl | rfl <;> decide
  unfold MemberRespelt at h
  split at h
  · rcases h with rfl | ⟨hconditions, -⟩ | ⟨-, h⟩
    · exact Or.inl rfl
    · exact absurd hconditions hne.2
    · exact Or.inr ⟨_, _, rfl, rfl, h⟩
  · rcases h with rfl | ⟨hoperator, -⟩
    · exact Or.inl rfl
    · exact absurd hoperator hne.1
  · exact Or.inl h

theorem rel_self {x : Option (List Group)} : Option.Rel (AllMatch keepLabel Condition.Recased) x x :=
  rel_of_eq allAlike_self rfl

mutual

/-- **The value of a group that is respelt describes a group that is respelt,** or both describe none. -/
theorem rel_ofValue? (v w : Value) (h : Respelt v w) : Option.Rel Alike (ofValue? v) (ofValue? w) := by
  rcases h.cases with rfl | ⟨fields, fields', rfl, rfl, hmembers⟩
  · exact rel_of_eq alike_self rfl
  · exact rel_ofFields? hmembers fun name hname => rel_ofMember? name hname fields fields' hmembers
termination_by sizeOf v

theorem rel_ofMember? (name : String) (hname : name = "groups" ∨ name = "subgroups") :
    ∀ fields fields', MembersRespelt fields fields' →
      Option.Rel (AllMatch keepLabel Condition.Recased) (ofMember? name fields) (ofMember? name fields')
  | [], [], _ => rel_self
  | [], _ :: _, h | _ :: _, [], h => by simp [MembersRespelt] at h
  | (k, v) :: r, (k', v') :: r', h => by
      rw [MembersRespelt] at h
      obtain ⟨rfl, hv, hr⟩ := h
      rw [ofMember?, ofMember?]
      split
      · next hk =>
        subst hk
        exact rel_ofItems? k hname v v' hv
      · exact rel_ofMember? name hname r r' hr
termination_by fields => sizeOf fields

theorem rel_ofItems? (name : String) (hname : name = "groups" ∨ name = "subgroups") (v w : Value)
    (h : MemberRespelt name v w) :
    Option.Rel (AllMatch keepLabel Condition.Recased) (ofItems? v) (ofItems? w) := by
  rcases h.cases hname with rfl | ⟨items, items', rfl, rfl, hitems⟩
  · exact rel_self
  · exact rel_ofValues? items items' hitems
termination_by sizeOf v

/-- So do lists of them. -/
theorem rel_ofValues? : ∀ vs ws : List Value, ItemsRespelt vs ws →
    Option.Rel (AllMatch keepLabel Condition.Recased) (ofValues? vs) (ofValues? ws)
  | [], [], _ => rel_self
  | [], _ :: _, h | _ :: _, [], h => by simp [ItemsRespelt] at h
  | v :: r, v' :: r', h => by
      rw [ItemsRespelt] at h
      rw [ofValues?, ofValues?]
      refine rel_bind (rel_ofValue? v v' h.1) fun g g' hg => ?_
      exact rel_bind (rel_ofValues? r r' h.2) fun gs gs' hgs => .some ⟨hg, hgs⟩
termination_by vs => sizeOf vs

end

end Group

/-! ### Respelling what is evaluated -/

/-- Whether rules are others, respelt: both as they are decoded, or both or one of them as a text or as its
bytes. -/
def Value.RulesRespelt (rules rules' : Value) : Prop :=
  ∃ fields fields', rules.ruleValue? = some (.object fields) ∧
    rules'.ruleValue? = some (.object fields') ∧ Group.MembersRespelt fields fields'

namespace Document

/-- Documents that match but for the spelling in their conditions. -/
abbrev Recased : Document → Document → Prop := Matches Group.keepLabel Condition.Recased

theorem rel_ofFields? {fields fields' : List (String × Value)} (h : Group.MembersRespelt fields fields') :
    Option.Rel Recased (ofFields? fields) (ofFields? fields') := by
  have hoperator := Group.combinator_of_memberRespelt (h.member "operator")
  have hgroups := Group.rel_ofMember? "groups" (Or.inl rfl) fields fields' h
  rw [ofFields?, ofFields?]
  refine rel_bind hgroups fun groups groups' hgroups => ?_
  rw [Group.depths_of_allMatch groups groups' hgroups]
  split
  · exact .some ⟨hoperator.symm, hgroups⟩
  · exact .none

theorem ofValue_of_groups_null {fields : List (String × Value)}
    (h : Value.member "groups" fields = .null) : ofValue (.object fields) = unusable .withoutGroups := by
  rw [ofValue, ← Value.member, h]

theorem ofValue_of_groups {fields : List (String × Value)} (h : Value.member "groups" fields ≠ .null) :
    ofValue (.object fields) =
      match ofFields? fields with
      | some d => .done d
      | none => unusable .invalid := by
  rw [ofValue]
  split
  · next hnull => exact absurd hnull h
  · rfl

/-- **Members that are respelt are read as documents that are respelt,** with the same notices. -/
theorem exists_ofValue_of_respelt {fields fields' : List (String × Value)}
    (h : Group.MembersRespelt fields fields') :
    ∃ ns d d', ofValue (.object fields) = ⟨ns, .ok d⟩ ∧ ofValue (.object fields') = ⟨ns, .ok d'⟩ ∧
      d.Recased d' := by
  have hread := rel_ofFields? h
  have hempty : empty.Recased empty := ⟨rfl, Group.allAlike_self []⟩
  have hnone : Value.member "groups" fields = .null ↔ Value.member "groups" fields' = .null := by
    rcases (h.member "groups").cases (Or.inl rfl) with heq | ⟨items, items', hv, hw, -⟩
    · rw [heq]
    · rw [hv, hw]
      simp
  by_cases hg : Value.member "groups" fields = .null
  · rw [ofValue_of_groups_null hg, ofValue_of_groups_null (hnone.mp hg)]
    exact ⟨_, _, _, rfl, rfl, hempty⟩
  · rw [ofValue_of_groups hg, ofValue_of_groups (mt hnone.mpr hg)]
    generalize ofFields? fields = x at hread ⊢
    generalize ofFields? fields' = y at hread ⊢
    cases hread with
    | none => exact ⟨_, _, _, rfl, rfl, hempty⟩
    | some hd => exact ⟨_, _, _, rfl, rfl, hd⟩

/-- Rules that stand for an object are read as that object. -/
theorem read_of_ruleValue {rules : Value} {fields : List (String × Value)}
    (h : rules.ruleValue? = some (.object fields)) : read rules = ofValue (.object fields) := by
  have hchars {cs : List Char} (hr : (Json.read .rules cs).toOption = some (.object fields)) :
      ofChars cs = ofValue (.object fields) := by
    rw [ofChars]
    cases hv : Json.read .rules cs with
    | error e =>
        rw [hv] at hr
        cases hr
    | ok v =>
        rw [hv] at hr
        obtain rfl := Option.some.inj hr
        rfl
  cases ht : rules.ruleText? with
  | some cs =>
      obtain ⟨hread, hvalue⟩ := read_of_ruleText ht
      rw [hread]
      exact hchars (hvalue.symm.trans h)
  | none =>
      cases rules with
      | object own =>
          obtain rfl := Value.object.inj (Option.some.inj h)
          rfl
      | text s =>
          rw [Value.ruleValue?, ht] at h
          cases h
      | bytes bs =>
          rw [Value.ruleValue?, ht] at h
          cases h
      | _ => cases h

/-- **Rules that are respelt stand for documents that are respelt,** with the same notices. -/
theorem exists_read_of_respelt {rules rules' : Value} (h : rules.RulesRespelt rules') :
    ∃ ns d d', read rules = ⟨ns, .ok d⟩ ∧ read rules' = ⟨ns, .ok d'⟩ ∧ d.Recased d' := by
  obtain ⟨fields, fields', hv, hv', h⟩ := h
  rw [read_of_ruleValue hv, read_of_ruleValue hv']
  exact exists_ofValue_of_respelt h

end Document

/-- **Respelling changes nothing** where it leaves the forms of an s alone.

- Texts of one folding stand for the same number and name the same combinator.  They stand for the same
  truth value, and name the same comparison, exactly if their folding stands for none, or both or neither
  of them have a form of an s.
- Rules and facts that are respelt so have the same summaries; the evaluations, and the verdicts with a
  trace, end alike, with the same notices, and leave the same lines but for the spelling of operators and
  values.  So every line passes alike, every summary does, and the verdicts are the same. -/
theorem respelling_changes_nothing {rules rules' : Value} {facts facts' : List (String × Value)}
    (hr : rules.RulesRespelt rules') (hf : List.Forall₂ Value.MemberRecased facts facts') :
    (∀ s t : String, fold s = fold t →
      (Content.of (.text s)).number? = (Content.of (.text t)).number? ∧
      Combinator.ofText s = Combinator.ofText t ∧
      ((Content.of (.text s)).boolean? = (Content.of (.text t)).boolean? ↔
        (HasFormOfS s ↔ HasFormOfS t) ∨ Content.wordFor? (foldedWord s) = none) ∧
      (Comparison.ofText? s = Comparison.ofText? t ↔
        (HasFormOfS s ↔ HasFormOfS t) ∨ Comparison.wordFor? (foldedWord s) = none)) ∧
    summariesOfRules rules (.object facts) = summariesOfRules rules' (.object facts') ∧
    (∀ own labels,
      ((evaluateRules own rules (.object facts) labels).andThen fun o =>
          .done (o.mapLines Line.unspelt)) =
        (evaluateRules own rules' (.object facts') labels).andThen fun o =>
          .done (o.mapLines Line.unspelt)) ∧
    ∀ labels, (verdictOfRules rules (.object facts) labels).mapLines Line.unspelt =
      (verdictOfRules rules' (.object facts') labels).mapLines Line.unspelt := by
  obtain ⟨ns, d, d', hd, hd', hmatch⟩ := Document.exists_read_of_respelt hr
  have hcontents : List.Forall₂ (fun f f' : String × Value =>
      f.1 = f'.1 ∧ (Content.of f.2).ReadAlike (Content.of f'.2)) facts facts' :=
    hf.imp fun f f' h => ⟨h.1, Content.readAlike_of_recased h.2⟩
  have hfacts := FactTable.rel_lookup .rfl hcontents
  have look (labels : Labels) (c c' : Condition) (h : c.Recased c') :
      c.LookAlike Line.unspelt labels (FactTable.ofFields facts) (FactTable.ofFields facts') c' :=
    Condition.lookAlike_of_recased hfacts labels h
  have hsupplied (facts : List (String × Value)) :
      suppliedFacts (.object facts) = .done (FactTable.ofFields facts) := rfl
  refine ⟨fun s t => readings_of_fold_eq, ?_, fun own labels => ?_, fun labels => ?_⟩
  · have hsummaries := Document.summaries_of_matches (look Keyed.empty) hmatch rfl
    rw [summariesOfRules, summariesOfRules, hd, hd', hsupplied, hsupplied]
    simp only [Reported.andThen, Reported.done, hsummaries]
  · rw [evaluateRules_eq_andThen, evaluateRules_eq_andThen, hd, hd', Reported.andThen_assoc,
      Reported.andThen_assoc]
    have hsame : ((d.evaluateSupplied own (.object facts) labels).andThen fun o =>
        .done (o.mapLines Line.unspelt)) =
          (d'.evaluateSupplied own (.object facts') labels).andThen fun o =>
            .done (o.mapLines Line.unspelt) := by
      rw [Document.evaluateSupplied, Document.evaluateSupplied, Reported.andThen_assoc,
        Reported.andThen_assoc]
      simp only [hsupplied, Reported.done_andThen, Document.mapLines_evaluate (look _) hmatch]
    exact congrArg (fun r : Reported Outcome => (⟨ns ++ r.notices, r.result⟩ : Reported Outcome)) hsame
  · rw [verdictOfRules, verdictOfRules, hd, hd', Traced.mapLines_andThen, Traced.mapLines_andThen]
    have hsame : ((suppliedLabels Keyed.empty labels |> Traced.ofReported).andThen fun catalog =>
        d.verdict (FactTable.ofFields facts) catalog).mapLines Line.unspelt =
          ((suppliedLabels Keyed.empty labels |> Traced.ofReported).andThen fun catalog =>
            d'.verdict (FactTable.ofFields facts') catalog).mapLines Line.unspelt := by
      simp only [Traced.mapLines_andThen, Document.mapLines_verdict (look _) hmatch]
    simp only [hsupplied, Traced.ofReported_done_andThen]
    exact congrArg (fun x : Traced Bool =>
      (⟨x.lines, ns ++ x.report.notices, x.report.result⟩ : Traced Bool)) hsame

namespace Sample

/-- Rules that ask for a member and for a street. -/
def streetRules (any equals yes street : String) : Value :=
  .object [("operator", .text any), ("groups", .list [
    .object [("id", .text "g"), ("conditions", .list [
      .object [("token", .text "member"), ("operator", .text equals), ("value", .text yes)],
      .object [("token", .text "street"), ("operator", .text "="), ("value", .text street)]])]])]

/-- Facts of a member in a street. -/
def streetFacts (yes street : String) : List (String × Value) :=
  [("member", .text yes), ("Street", .text street)]

/-- The hypotheses of `respelling_changes_nothing` are satisfiable: words in other letter case, and a street
with a sharp s, which is no word. -/
theorem respelling_changes_nothing_street :
    let rules := streetRules "or" "equals" "yes" "BACHSTRASSE"
    let rules' := streetRules "OR" "Equals" "YES" "Bachstra\u00dfe"
    let facts := streetFacts "Yes" "bachstra\u00dfe"
    let facts' := streetFacts "yeS" "BachStra\u1e9ee"
    rules.RulesRespelt rules' ∧ List.Forall₂ Value.MemberRecased facts facts' ∧
      summariesOfRules rules (.object facts) = summariesOfRules rules' (.object facts') ∧
      (summariesOfRules rules' (.object facts')).result = .ok [⟨"g", "g", true⟩] := by
  intro rules rules' facts facts'
  have hequals : Text.Recased Comparison.wordFor? "equals" "Equals" := ⟨by decide +kernel, by decide +kernel⟩
  have hyes : Text.Recased Content.wordFor? "yes" "YES" := ⟨by decide +kernel, by decide +kernel⟩
  have hstreet : Text.Recased Content.wordFor? "BACHSTRASSE" "Bachstra\u00dfe" :=
    ⟨by decide +kernel, by decide +kernel⟩
  have hmember : Condition.Respelt
      (.object [("token", .text "member"), ("operator", .text "equals"), ("value", .text "yes")])
      (.object [("token", .text "member"), ("operator", .text "Equals"), ("value", .text "YES")]) :=
    Or.inr ⟨_, _, rfl, rfl, .cons ⟨rfl, Or.inl rfl⟩
      (.cons ⟨rfl, Or.inr ⟨_, _, rfl, rfl, Or.inl ⟨rfl, hequals⟩⟩⟩
        (.cons ⟨rfl, Or.inr ⟨_, _, rfl, rfl, Or.inr ⟨rfl, hyes⟩⟩⟩ .nil))⟩
  have haddress : Condition.Respelt
      (.object [("token", .text "street"), ("operator", .text "="), ("value", .text "BACHSTRASSE")])
      (.object [("token", .text "street"), ("operator", .text "="),
        ("value", .text "Bachstra\u00dfe")]) :=
    Or.inr ⟨_, _, rfl, rfl, .cons ⟨rfl, Or.inl rfl⟩ (.cons ⟨rfl, Or.inl rfl⟩
      (.cons ⟨rfl, Or.inr ⟨_, _, rfl, rfl, Or.inr ⟨rfl, hstreet⟩⟩⟩ .nil))⟩
  have hoperator : fold "or" = fold "OR" := by decide +kernel
  have hr : rules.RulesRespelt rules' := by
    refine ⟨_, _, rfl, rfl, ?_⟩
    simp [Group.MembersRespelt, Group.MemberRespelt, Group.ItemsRespelt, Group.Respelt, hoperator,
      hmember, haddress]
  have hf : List.Forall₂ Value.MemberRecased facts facts' :=
    .cons ⟨rfl, Or.inr ⟨_, _, rfl, rfl, by decide +kernel, by decide +kernel⟩⟩
      (.cons ⟨rfl, Or.inr ⟨_, _, rfl, rfl, by decide +kernel, by decide +kernel⟩⟩ .nil)
  obtain ⟨-, hsummaries, -⟩ := respelling_changes_nothing hr hf
  exact ⟨hr, hf, hsummaries, by decide +kernel⟩

/-- **Letter case matters** for a word that is spelt with a long s: it has the folding of the word and is
none. -/
theorem long_s_is_no_word :
    ¬ ∀ s t : String, fold s = fold t →
      (Content.of (.text s)).boolean? = (Content.of (.text t)).boolean? ∧
        Comparison.ofText? s = Comparison.ofText? t := by
  intro h
  have hword := (h "yes" "ye\u017f" (by decide +kernel)).1
  revert hword
  decide +kernel

end Sample

end Verdict
