/-
# Payloads are standard JSON

Everything that an evaluation and an assessment show is made of objects and lists around null, truth
values, integers, finite binary64 numbers and texts.  Values come into a payload by three ways, and each
ends in such a scalar:

| in a payload | is shown |
| --- | --- |
| the fact of a line, and an echoed fact | as the supplied value (`Value.shown`) |
| the literal of a line | as the value that the document holds for the supplied one (`Value.heldAs`) |

A fact that is a binary64 number and not finite is shown as null.  A literal is never such a number: a
document holds the decimal of a number that is finite, and the text of one that is not.
-/

import Verdict.Proofs.DecimalEcho
import Verdict.Proofs.Gate
import Verdict.Proofs.TableOrder
import Verdict.Proofs.TextAndValue
import Verdict.Proofs.Totality
import Verdict.Proofs.TraceOrder
import Verdict.Proofs.ValueRange

namespace Verdict

open Text

/-! ### Scalars -/

namespace Value

/-- Values of standard JSON: scalars, and lists and objects of such values. -/
inductive IsStandard : Value → Prop
  | scalar {v : Value} (h : v.isScalar = true) : IsStandard v
  | list {items : List Value} (h : ∀ v ∈ items, IsStandard v) : IsStandard (.list items)
  | object {fields : List (String × Value)} (h : ∀ f ∈ fields, IsStandard f.2) :
      IsStandard (.object fields)

@[simp] theorem isStandard_list {items : List Value} :
    IsStandard (.list items) ↔ ∀ v ∈ items, v.IsStandard :=
  ⟨fun | .list h => h, .list⟩

@[simp] theorem isStandard_object {fields : List (String × Value)} :
    IsStandard (.object fields) ↔ ∀ f ∈ fields, f.2.IsStandard :=
  ⟨fun | .object h => h, .object⟩

@[simp] theorem isStandard_bool (b : Bool) : IsStandard (.bool b) := .scalar rfl

@[simp] theorem isStandard_text (s : String) : IsStandard (.text s) := .scalar rfl

/-- A supplied value as a payload shows it: its echo, and null for a binary64 number that is not
finite. -/
def shown : Value → Value
  | .float x => if x.isFinite then .float x else .null
  | v => v.echo

variable {v : Value}

/-- The echo of a value is a scalar, unless the value is a binary64 number. -/
theorem isScalar_echo (h : v.NotFloat) : v.echo.isScalar = true := by
  cases v with
  | float x => exact absurd rfl (h x)
  | decimal d =>
      cases d with
      | finite d =>
          rcases d.echo_kinds with ⟨-, hint⟩ | ⟨-, ⟨x, hfloat, hfinite, -⟩ | htext⟩
          · rw [echo, hint]
            rfl
          · rw [echo, hfloat]
            exact hfinite
          · rw [echo, htext]
            rfl
      | _ => rfl
  | _ => rfl

/-- Scalars are shown as they are. -/
theorem payload_of_isScalar (h : v.isScalar = true) : v.payload = v := by
  cases v with
  | float x => exact if_pos h
  | null | bool _ | int _ | text _ => rfl
  | _ => cases h

theorem payload_echo (v : Value) : v.echo.payload = v.shown := by
  cases v with
  | float x => rfl
  | _ => exact payload_of_isScalar (isScalar_echo nofun)

/-- What a payload shows of a value is a scalar. -/
theorem isScalar_shown (v : Value) : v.shown.isScalar = true :=
  payload_echo v ▸ isScalar_payload_echo v

/-- Showing an echo never fails. -/
theorem payloadFailure?_echo (v : Value) (depth : Nat) : v.echo.payloadFailure? (depth + 1) = none := by
  have hscalar {w : Value} (h : w.isScalar = true) : w.payloadFailure? (depth + 1) = none := by
    cases w with
    | bytes _ | list _ | object _ => cases h
    | _ => rfl
  cases v with
  | float x => rfl
  | _ => exact hscalar (isScalar_echo nofun)

end Value

/-! ### Supplied facts -/

/-- The value that is supplied under a token: that of the last member with its folding, null where there
is none. -/
def Value.underToken (facts : Value) (token : String) : Value :=
  ((Keyed.last? facts.members (fold token)).map Prod.snd).getD .null

namespace FactTable

variable {facts : Value} {table : FactTable}

theorem lookup_of_ofValue? (h : ofValue? facts = some table) (token : String) :
    table.lookup token = Fact.of (facts.underToken token) := by
  rw [eq_ofFields_members h, lookup, get?_ofFields, Value.underToken]
  cases Keyed.last? facts.members (fold token) <;> rfl

/-- **An echoed fact is shown as the value that was supplied** under its token. -/
theorem payload_of_mem_echoes (h : ofValue? facts = some table) {f : String × Value}
    (hf : f ∈ table.echoes) : f.2.payload = (facts.underToken f.1).shown := by
  obtain ⟨p, hp, rfl⟩ := List.mem_map.mp hf
  have hlookup : table.lookup p.1 = p.2 := by
    rw [eq_ofFields_members h] at hp ⊢
    exact lookup_of_mem_toList _ hp
  rw [← hlookup, lookup_of_ofValue? h]
  exact Value.payload_echo _

end FactTable

/-! ### Supplied literals -/

namespace Value

/-- A supplied literal as a document holds it: a binary64 number as the decimal that its text writes, or
as its text where it is not finite, and bytes as what they write. -/
def heldAs : Value → Value
  | .float x => if x.isFinite then .decimal (.finite x.toDecimal) else .text x.text
  | .bytes bs => ((Literal.ofBytes? bs).map Literal.toValue).getD (.bytes bs)
  | v => v

/-- The literal that a condition gives, null where it is absent. -/
def conditionLiteral : Value → Value
  | .object fields => member "value" fields
  | _ => .null

/-- The literals that the conditions of a group give, then those that its subgroups do. -/
def groupLiterals : Value → List Value
  | .object fields =>
    (member "conditions" fields).items.map conditionLiteral ++
      ((subgroups fields).items.attach.map fun v => v.1.groupLiterals).flatten
  | _ => []
termination_by v => sizeOf v
decreasing_by
  have h₁ := sizeOf_lt_of_mem_items v.2
  have h₂ := sizeOf_subgroups_le fields
  rw [object.sizeOf_spec]
  omega

theorem groupLiterals_object (fields : List (String × Value)) :
    groupLiterals (.object fields) =
      (member "conditions" fields).items.map conditionLiteral ++
        (subgroups fields).items.flatMap groupLiterals := by
  rw [groupLiterals, List.attach_map_val, List.flatMap_def]

/-- The literals that rules give, in the order of the tree. -/
def ruleLiterals (rules : Value) : List Value :=
  match rules.ruleValue? with
  | some (.object fields) => (member "groups" fields).items.flatMap groupLiterals
  | _ => []

end Value

namespace Literal

variable {v : Value} {l : Literal}

theorem toValue_of_ofValue? (h : ofValue? v = some l) : l.toValue = v.heldAs := by
  cases v with
  | float x =>
      obtain rfl := Option.some.inj h
      rw [Value.heldAs]
      split <;> rfl
  | bytes bs =>
      change ofBytes? bs = some l at h
      rw [Value.heldAs, h]
      rfl
  | decimal d =>
      cases d with
      | finite d =>
          obtain rfl := Option.some.inj h
          rfl
      | _ => cases h
  | null | bool _ | int _ | text _ =>
      obtain rfl := Option.some.inj h
      rfl
  | _ => cases h

theorem notFloat_toValue (l : Literal) : l.toValue.NotFloat := by
  cases l <;> exact nofun

/-- **A literal is shown as the value that is held** for the supplied one. -/
theorem payload_echo_of_ofValue? (h : ofValue? v = some l) : l.toValue.echo.payload = v.heldAs.echo := by
  rw [Value.payload_of_isScalar (Value.isScalar_echo l.notFloat_toValue), toValue_of_ofValue? h]

end Literal

open Value

theorem Value.items_of_asItems? {v : Value} {vs : List Value} (h : v.asItems? = some vs) :
    v.items = vs := by
  cases v with
  | null | list _ => exact Option.some.inj h
  | _ => cases h

/-- Whether each of some literals is read from the value beside it. -/
def Literal.ReadFrom : List Value → List Literal → Prop :=
  List.Forall₂ fun v l => Literal.ofValue? v = some l

namespace Condition

theorem readFrom_of_ofValues? {vs : List Value} {cs : List Condition} (h : ofValues? vs = some cs) :
    Literal.ReadFrom (vs.map conditionLiteral) (cs.map (·.value)) := by
  induction vs generalizing cs with
  | nil =>
      obtain rfl := Option.some.inj h
      exact .nil
  | cons v r ih =>
      simp only [ofValues?, Option.bind_eq_bind, Option.bind_eq_some_iff, Option.pure_def,
        Option.some.injEq] at h
      obtain ⟨c, hc, cs, hcs, rfl⟩ := h
      refine .cons ?_ (ih hcs)
      cases v with
      | object fields =>
          simp only [ofValue?, ofFields?, Option.bind_eq_bind, Option.bind_eq_some_iff, Option.pure_def,
            Option.some.injEq] at hc
          obtain ⟨_, -, _, -, _, -, l, hl, rfl⟩ := hc
          exact hl
      | _ => cases hc

theorem readFrom_of_listOfFields? {fields : List (String × Value)} {cs : List Condition}
    (h : listOfFields? fields = some cs) :
    Literal.ReadFrom ((member "conditions" fields).items.map conditionLiteral) (cs.map (·.value)) := by
  obtain ⟨vs, hvs, hcs⟩ := Option.bind_eq_some_iff.mp h
  rw [items_of_asItems? (v := member "conditions" fields) hvs]
  exact readFrom_of_ofValues? hcs

end Condition

namespace Group

theorem readFrom_of_ofValues? {vs : List Value} {gs : List Group}
    (h : ∀ w ∈ vs, ∀ g, ofValue? w = some g → Literal.ReadFrom w.groupLiterals g.literals)
    (hgs : ofValues? vs = some gs) :
    Literal.ReadFrom (vs.flatMap groupLiterals) (allLiterals gs) := by
  induction vs generalizing gs with
  | nil =>
      obtain rfl := Option.some.inj hgs
      exact .nil
  | cons w r ih =>
      rw [List.forall_mem_cons] at h
      simp only [ofValues?, Option.bind_eq_bind, Option.bind_eq_some_iff, Option.pure_def,
        Option.some.injEq] at hgs
      obtain ⟨g, hg, gs, hr, rfl⟩ := hgs
      exact List.rel_append (h.1 g hg) (ih h.2 hr)

theorem readFrom_of_ofItems? {v : Value} {gs : List Group}
    (h : ∀ w ∈ v.items, ∀ g, ofValue? w = some g → Literal.ReadFrom w.groupLiterals g.literals)
    (hgs : ofItems? v = some gs) :
    Literal.ReadFrom (v.items.flatMap groupLiterals) (allLiterals gs) := by
  cases v with
  | null =>
      obtain rfl := Option.some.inj hgs
      exact .nil
  | list items => exact readFrom_of_ofValues? h hgs
  | _ => cases hgs

/-- **The literals of a group are read from those that its value gives,** in order. -/
theorem readFrom_of_ofValue? {v : Value} {g : Group} (h : ofValue? v = some g) :
    Literal.ReadFrom v.groupLiterals g.literals := by
  induction v using Value.groupLiterals.induct generalizing g with
  | case1 fields ih =>
      rw [ofValue?_object] at h
      simp only [Option.bind_eq_some_iff, Option.some.injEq] at h
      obtain ⟨_, -, _, -, cs, hcs, gs, hgs, rfl⟩ := h
      have hconditions := Condition.readFrom_of_listOfFields? hcs
      have hgroups := readFrom_of_ofItems? (fun w hw g hg => ih ⟨w, hw⟩ hg) hgs
      rw [groupLiterals_object, literals]
      exact List.rel_append hconditions hgroups
  | case2 v hne =>
      cases v with
      | object fields => exact absurd rfl (hne fields)
      | _ => cases h

end Group

namespace Document

variable {rules : Value} {d : Document}

/-- A document that is read is empty, or is what the members describe that the rules stand for. -/
theorem exists_ruleValue_of_read (hd : (read rules).result = .ok d) :
    d = empty ∨ ∃ fields, ofFields? fields = some d ∧ rules.ruleValue? = some (.object fields) := by
  have hvalue {v : Value} (hv : rules.ruleValue? = some v) (hd : (ofValue v).result = .ok d) :=
    exists_fields_of_ofValue (P := fun w => rules.ruleValue? = some w) hv hd
  cases ht : rules.ruleText? with
  | some cs =>
      obtain ⟨hread, hrule⟩ := read_of_ruleText ht
      rw [hread, ofChars] at hd
      cases hr : Json.read .rules cs with
      | ok v =>
          rw [hr] at hd hrule
          exact hvalue hrule hd
      | error e =>
          rw [hr] at hd
          cases e with
          | outOfRange => cases hd
          | _ => exact Or.inl (Except.ok.inj hd).symm
  | none =>
      have hnone (hrules : rules.BytesFree ∨ ∃ bs, rules = .bytes bs) (h : rules.ruleValue? = none) :
          d = empty := by
        obtain ⟨d', hd', hstands⟩ := exists_read_of_ruleText_eq_none hrules ht
        obtain rfl := Except.ok.inj (hd.symm.trans hd')
        rw [h] at hstands
        refine hstands.2 ?_
        rintro w ⟨⟩
      cases rules with
      | null => exact Or.inl (Except.ok.inj hd).symm
      | text s => exact Or.inl (hnone (Or.inl (.text s)) (by rw [ruleValue?, ht]; rfl))
      | bytes bs => exact Or.inl (hnone (Or.inr ⟨bs, rfl⟩) (by rw [ruleValue?, ht]; rfl))
      | _ => exact hvalue rfl hd

/-- **The literals of a document are read from those that the rules give,** in order, unless the document
is empty. -/
theorem readFrom_of_read (hd : (read rules).result = .ok d) :
    d = empty ∨ Literal.ReadFrom rules.ruleLiterals d.literals := by
  rcases exists_ruleValue_of_read hd with hempty | ⟨fields, hfields, hrule⟩
  · exact Or.inl hempty
  · obtain ⟨gs, hgs, hdepth⟩ := Option.bind_eq_some_iff.mp hfields
    obtain ⟨-, hdoc⟩ := Option.ite_none_right_eq_some.mp hdepth
    obtain rfl := Option.some.inj hdoc
    rw [Group.ofMember?_eq] at hgs
    rw [ruleLiterals, hrule]
    exact Or.inr (Group.readFrom_of_ofItems? (fun _ _ _ => Group.readFrom_of_ofValue?) hgs)

end Document

/-! ### Lines and payloads -/

namespace Document

variable {d : Document} {facts : Value} {table : FactTable} {labels : Labels}

/-- **A line can be shown,** and shows the fact that was supplied under its token. -/
theorem payload_of_mem_lines (hf : FactTable.ofValue? facts = some table) {l : Line}
    (hl : l ∈ d.lines table labels) :
    l.failure? = none ∧ l.expected.payload.isScalar = true ∧ l.actual.payload.isScalar = true ∧
      l.actual.payload = (facts.underToken l.token).shown := by
  obtain ⟨index, o, rfl⟩ := exists_of_mem_lines hl
  refine ⟨?_, isScalar_payload_echo _, isScalar_payload_echo _, ?_⟩
  · change ((Value.echo _).payloadFailure? maxPayloadDepth).or
      ((Value.echo _).payloadFailure? maxPayloadDepth) = none
    rw [maxPayloadDepth, payloadFailure?_echo, payloadFailure?_echo]
    rfl
  · change (table.lookup o.condition.token).echo.payload = _
    rw [FactTable.lookup_of_ofValue? hf]
    exact payload_echo _

/-- **The lines show the literals that the rules give,** as the document holds them. -/
theorem expected_of_read {rules : Value} (hd : (read rules).result = .ok d) :
    d = empty ∧ d.lines table labels = [] ∨
      List.Forall₂ (fun v l => l.expected.payload = v.heldAs.echo) rules.ruleLiterals
        (d.lines table labels) := by
  rcases readFrom_of_read hd with rfl | hliterals
  · exact Or.inl ⟨rfl, rfl⟩
  · refine Or.inr (List.forall₂_map_right_iff
      (R := fun v e : Value => e.payload = v.heldAs.echo).mp ?_)
    rw [d.map_expected_lines, List.forall₂_map_right_iff]
    exact hliterals.imp fun v l => Literal.payload_echo_of_ofValue?

end Document

section
variable {l : Line} {s : Summary} {o : Outcome} {x : Assessment}

theorem Line.isStandard_toValue (hexpected : l.expected.payload.isScalar = true)
    (hactual : l.actual.payload.isScalar = true) : l.toValue.IsStandard := by
  simp [toValue, members, IsStandard.scalar hexpected, IsStandard.scalar hactual]

theorem Summary.isStandard_toValue : s.toValue.IsStandard := by simp [toValue]

theorem Outcome.isStandard_toValue (h : ∀ l ∈ o.lines, l.toValue.IsStandard) :
    o.toValue.IsStandard := by
  simpa [toValue, Summary.isStandard_toValue] using h

theorem Assessment.isStandard_toValue (hlines : ∀ l ∈ x.lines, l.toValue.IsStandard)
    (hfacts : ∀ f ∈ x.facts, f.2.payload.IsStandard) : x.toValue.IsStandard := by
  rw [toValue, isStandard_object]
  simp only [List.forall_mem_cons, isStandard_bool, isStandard_text, isStandard_list, List.forall_mem_map,
    Summary.isStandard_toValue, implies_true, true_and]
  exact ⟨hlines, .object (List.forall_mem_map.mpr hfacts), nofun⟩

end

section
variable {a : Assessor} (call : Option Policy) {rules facts labels : Value} (failures : List String)
  {d : Document} {table : FactTable} {added : Labels} (hown : a.labels.AreTexts)
  (hd : (Document.read rules).result = .ok d) (hf : FactTable.ofValue? facts = some table)
  (hl : Labels.ofValue? labels = some added) (ha : added.AreTexts)
include hown hd hf hl ha

/-- A gate that is open lets the evaluation through, if there are lines for the parameters. -/
theorem Assessor.result_assess_of_not_stops
    (h : ¬ ((a.policyOf call).blocks = true ∧ failures ≠ [])) :
    ∃ o : Outcome, o.lines = d.lines table (a.labels.merge added) ∧
      (a.assess call (Document.read rules) facts (failures.map .text) labels).result =
        match (a.policyOf call).parameterLines? table (a.labels.merge added) with
        | some parameters => .ok ((a.policyOf call).report failures table o parameters)
        | none => .error .tooManyDigits := by
  have hopen := (a.policyOf call).result_assess_of_not_stops a.labels (Document.read rules) hf hl h
  rw [Reported.result_andThen, hd] at hopen
  have heval := congrArg Reported.result (d.evaluate_eq table ((hown.merge ha).describes _))
  exact ⟨_, rfl, hopen.trans (congrArg (fun r => Except.bind r _) heval)⟩

/-- **There is an assessment** if failures stop it, or no parameter has a fact that is too long. -/
theorem Assessor.exists_result_assess
    (h : ((a.policyOf call).blocks = true ∧ failures ≠ []) ∨
      ∀ token ∈ (a.policyOf call).parameters, ¬ (table.lookup token).source.IsLongInteger) :
    ∃ x, (a.assess call (Document.read rules) facts (failures.map .text) labels).result = .ok x := by
  by_cases hstops : (a.policyOf call).blocks = true ∧ failures ≠ []
  · have hshut := (a.policyOf call).assess_of_stops a.labels (Document.read rules) labels hf
      hstops.1 hstops.2
    exact ⟨_, congrArg Reported.result hshut⟩
  · obtain ⟨o, -, hopen⟩ := result_assess_of_not_stops call failures hown hd hf hl ha hstops
    rw [Policy.parameterLines?_eq_some (hown.merge ha) (h.resolve_left hstops)] at hopen
    exact ⟨_, hopen⟩

/-- **An assessment has the lines of the evaluation and the echoes of all facts,** or, where failures
stop it, neither. -/
theorem Assessor.lines_of_assess {x : Assessment}
    (hx : (a.assess call (Document.read rules) facts (failures.map .text) labels).result = .ok x) :
    x.lines = d.lines table (a.labels.merge added) ∧ x.facts = table.echoes ∨
      x.lines = [] ∧ x.facts = [] := by
  by_cases hstops : (a.policyOf call).blocks = true ∧ failures ≠ []
  · have hshut := (a.policyOf call).assess_of_stops a.labels (Document.read rules) labels hf
      hstops.1 hstops.2
    obtain rfl := Except.ok.inj (hx.symm.trans (congrArg Reported.result hshut))
    exact Or.inr ⟨rfl, rfl⟩
  · obtain ⟨o, ho, hopen⟩ := result_assess_of_not_stops call failures hown hd hf hl ha hstops
    rw [hopen] at hx
    split at hx
    · obtain rfl := Except.ok.inj hx
      exact Or.inl ⟨ho, rfl⟩
    · cases hx

end

/-- **Every payload is standard JSON.**  Let rules be read without a failure, facts and labels be
supplied as members, the labels all texts, and any failures and policy to an assessment.

* Evaluating the rules succeeds, and so does assessing the facts, unless no failure stops it and a
  parameter of the policy has an integer of too many digits.  What is shown of them is standard: a scalar,
  or a list or an object of standard values.
* Every line can be shown.  Its literal and its fact are scalars, and the fact is shown as the value that
  was supplied under its token, or as null where there is none.
* Every echoed fact is shown as the value that was supplied under its token.
* The lines show the literals that the rules give, in the order of the tree, each as the document holds
  it; if the document is empty, there are no lines.
* An assessment has the lines of the evaluation and all facts, or else none. -/
theorem payloads_are_standard_json {a : Assessor} {call : Option Policy} {rules facts labels : Value}
    {failures : List String} {d : Document} {table : FactTable} {added : Labels}
    (hown : a.labels.AreTexts) (hd : (Document.read rules).result = .ok d)
    (hf : FactTable.ofValue? facts = some table) (hl : Labels.ofValue? labels = some added)
    (ha : added.AreTexts) :
    let p := call.getD a.policy
    let assessed := a.assess call (Document.read rules) facts (failures.map .text) labels
    ∃ o, (evaluateRules a.labels rules facts labels).result = .ok o ∧ o.toValue.IsStandard ∧
      (∀ l ∈ o.lines, l.failure? = none ∧ l.expected.payload.isScalar = true ∧
        l.actual.payload.isScalar = true ∧ l.actual.payload = (facts.underToken l.token).shown) ∧
      (d = .empty ∧ o.lines = [] ∨
        List.Forall₂ (fun v l => l.expected.payload = v.heldAs.echo) rules.ruleLiterals o.lines) ∧
      ((p.blocks = true ∧ failures ≠ [] ∨
          ∀ token ∈ p.parameters, ¬ (table.lookup token).source.IsLongInteger) →
        ∃ x, assessed.result = .ok x) ∧
      ∀ x, assessed.result = .ok x → x.toValue.IsStandard ∧
        (∀ f ∈ x.facts, f.2.payload.isScalar = true ∧ f.2.payload = (facts.underToken f.1).shown) ∧
        (x.lines = o.lines ∧ x.facts = table.echoes ∨ x.lines = [] ∧ x.facts = []) := by
  intro p assessed
  have hr : Document.read rules = ⟨(Document.read rules).notices, .ok d⟩ := by rw [← hd]
  have ho := congrArg Reported.result (evaluateRules_eq hown hr hf hl ha)
  have hlines (l : Line) (hmem : l ∈ d.lines table (a.labels.merge added)) :=
    Document.payload_of_mem_lines hf hmem
  have hstandard : ∀ l ∈ d.lines table (a.labels.merge added), l.toValue.IsStandard := by
    intro l hmem
    obtain ⟨-, hexpected, hactual, -⟩ := hlines l hmem
    exact Line.isStandard_toValue hexpected hactual
  refine ⟨_, ho, Outcome.isStandard_toValue hstandard, hlines, Document.expected_of_read hd,
    Assessor.exists_result_assess call failures hown hd hf hl ha, fun x hx => ?_⟩
  have hsame := Assessor.lines_of_assess call failures hown hd hf hl ha hx
  have hsub : x.lines ⊆ d.lines table (a.labels.merge added) ∧ x.facts ⊆ table.echoes := by
    rcases hsame with ⟨hall, hechoes⟩ | ⟨hnoLine, hnoFact⟩
    · exact ⟨hall ▸ List.Subset.refl _, hechoes ▸ List.Subset.refl _⟩
    · exact ⟨hnoLine ▸ List.nil_subset _, hnoFact ▸ List.nil_subset _⟩
  have hfacts : ∀ f ∈ x.facts,
      f.2.payload.isScalar = true ∧ f.2.payload = (facts.underToken f.1).shown := by
    intro f hmem
    have hshown := FactTable.payload_of_mem_echoes hf (hsub.2 hmem)
    exact ⟨hshown ▸ isScalar_shown _, hshown⟩
  have hassessed : x.toValue.IsStandard :=
    Assessment.isStandard_toValue (fun l hmem => hstandard l (hsub.1 hmem))
      fun f hmem => .scalar (hfacts f hmem).1
  exact ⟨hassessed, hfacts, hsame⟩

namespace Sample

/-- Rules whose literals are two binary64 numbers, one of them infinite, and bytes. -/
def scored : Value :=
  .object [("groups", .list [.object [("id", .text "g"), ("conditions", .list [
      .object [("token", .text "Score"), ("operator", .text "="),
        ("value", .float (Binary64.ofDecimal ⟨false, 25, 0⟩))],
      .object [("token", .text "tags"), ("operator", .text "!="),
        ("value", .float (Binary64.infinity false))]]),
    ("groups", .list [.object [("id", .text "h"), ("conditions", .list [
      .object [("token", .text "photo"), ("operator", .text "="),
        ("value", .bytes [0x61, 0x62])]])]])]])]

/-- The document holds the first literal as a decimal and the others as texts. -/
theorem literals_scored :
    ∃ d, (Document.read scored).result = .ok d ∧
      d.literals = [.decimal ⟨false, 250, -1⟩, .text "inf", .text "ab"] := by
  have hliterals : (Document.ofValue scored).result.toOption.map Document.literals =
      some [.decimal ⟨false, 250, -1⟩, .text "inf", .text "ab"] := by decide +kernel
  obtain ⟨d, hd⟩ := Document.exists_result_ofValue scored
  rw [hd] at hliterals
  exact ⟨d, hd, Option.some.inj hliterals⟩

theorem ruleLiterals_scored :
    scored.ruleLiterals = [.float (Binary64.ofDecimal ⟨false, 25, 0⟩),
      .float (Binary64.infinity false), .bytes [0x61, 0x62]] := by
  simp [scored, Value.ruleLiterals, Value.ruleValue?, Value.member, Value.lookup?, Value.items,
    Value.groupLiterals_object, Value.subgroups, Value.conditionLiteral]

/-- The hypotheses of `payloads_are_standard_json` are satisfiable: each fact of the three lines is shown
as it was collected, the score as null, and so are the echoed facts. -/
theorem payloads_are_standard_json_scored :
    ∃ o x, (evaluateRules assessor.labels scored collected labels).result = .ok o ∧
      (assessor.assess (some reporting) (Document.read scored) collected [] labels).result = .ok x ∧
      (o.toValue.IsStandard ∧ x.toValue.IsStandard) ∧ o.lines.length = 3 ∧
      (∀ l ∈ o.lines, l.token = "Score" → l.actual.payload = .null) ∧
      ∀ f ∈ x.facts, f.1 = "INCOME" → f.2.payload = .text "3,000" := by
  obtain ⟨d, hd, hliterals⟩ := literals_scored
  have hf : FactTable.ofValue? collected = some (FactTable.ofFields collected.members) := rfl
  have hl : Labels.ofValue? labels = some catalog := rfl
  obtain ⟨o, ho, hstandard, hlines, hexpected, hassess, hall⟩ :=
    @payloads_are_standard_json assessor (some reporting) scored collected labels [] d _ _
      Labels.areTexts_empty hd hf hl areTexts_catalog
  have hshown : ∀ token ∈ reporting.parameters,
      ((FactTable.ofFields collected.members).lookup token).echo.hasText = true := by decide +kernel
  obtain ⟨x, hx⟩ := hassess
    (Or.inr fun token htoken => Value.hasText_echo_iff.mp (hshown token htoken))
  obtain ⟨hassessed, hfacts, -⟩ := hall x hx
  have hscore : (collected.underToken "Score").shown = .null := by rfl
  have hincome : (collected.underToken "INCOME").shown = .text "3,000" := by rfl
  refine ⟨o, x, ho, hx, ⟨hstandard, hassessed⟩, ?_, ?_, ?_⟩
  · rcases hexpected with ⟨rfl, -⟩ | hexpected
    · cases hliterals
    · rw [← hexpected.length_eq, ruleLiterals_scored]
      rfl
  · rintro l hmem htoken
    obtain ⟨-, -, -, hactual⟩ := hlines l hmem
    rw [hactual, htoken, hscore]
  · rintro f hmem hname
    rw [(hfacts f hmem).2, hname, hincome]

/-- **Literals are not always shown as they were supplied:** binary64 numbers and bytes are shown as the
document holds them. -/
theorem literals_not_shown_as_supplied :
    ∃ o, (evaluateRules Keyed.empty scored collected .null).result = .ok o ∧
      scored.ruleLiterals.map Value.echo =
        [.float (Binary64.ofDecimal ⟨false, 25, 0⟩), .float (Binary64.infinity false), .text "b'ab'"] ∧
      o.lines.map (·.expected.payload) = [.int 25, .text "inf", .text "ab"] ∧
      ¬ List.Forall₂ (fun v l => l.expected.payload = v.echo) scored.ruleLiterals o.lines := by
  obtain ⟨d, hd, hliterals⟩ := literals_scored
  have hr : Document.read scored = ⟨(Document.read scored).notices, .ok d⟩ := by rw [← hd]
  have hf : FactTable.ofValue? collected = some (FactTable.ofFields collected.members) := rfl
  have hl : Labels.ofValue? .null = some Keyed.empty := rfl
  have ho := congrArg Reported.result
    (evaluateRules_eq Labels.areTexts_empty hr hf hl Labels.areTexts_empty)
  have hecho : Decimal.echo ⟨false, 250, -1⟩ = .int 25 := if_pos (by decide +kernel)
  have hshown : (d.lines (FactTable.ofFields collected.members)
      (Keyed.empty.merge Keyed.empty)).map (·.expected.payload) = [.int 25, .text "inf", .text "ab"] := by
    have hexpected := d.map_expected_lines (FactTable.ofFields collected.members)
      (Keyed.empty.merge Keyed.empty)
    calc
      _ = (d.literals.map fun l => l.toValue.echo).map Value.payload := by
        rw [← hexpected, List.map_map]
        rfl
      _ = [.int 25, .text "inf", .text "ab"] := by
        simp [hliterals, Literal.toValue, Value.echo, hecho, Value.payload]
  refine ⟨_, ho, ?_, hshown, ?_⟩
  · rw [ruleLiterals_scored]
    have hbytes : (Value.bytes [0x61, 0x62]).display = "b'ab'" := by decide +kernel
    simp [Value.echo, hbytes]
  · intro h
    have hfirst := List.forall₂_map_right_iff (R := fun v e : Value => e = v.echo).mpr h
    rw [hshown, ruleLiterals_scored] at hfirst
    cases hfirst with
    | cons h _ => cases h

end Sample

end Verdict
