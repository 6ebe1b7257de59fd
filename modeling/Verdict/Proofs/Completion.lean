/-
# When an evaluation comes to an end

Evaluating a document that was read fails in one way only, through a label: a condition of the
document has a token whose label in effect is given and is no text.  In every other case there is a
result, and summaries, which take no labels, there are always (`evaluations_return_iff`).

Every decimal that an evaluation compares, tests or converts is finite and in range
(`Condition.inRange_of_reaches`), whatever the facts are.  These decimals (`Condition.Reaches`) are the ones by
which a condition holds (`Condition.exists_reaches_of_holds`, `Condition.equal_cases`), and the ones that its
line shows (`Condition.reaches_of_shown`).
-/

import Verdict.Proofs.DecimalEcho
import Verdict.Proofs.LastWritten
import Verdict.Proofs.Supplied
import Verdict.Proofs.TraceOrder

namespace Verdict

/-! ### The label in effect -/

namespace Labels

/-- The label that an object has for a token: the last one, if it has several spellings of it. -/
def member? (labels : Value) (token : String) : Option Value :=
  match labels with
  | .object fields =>
    ((fields.filter fun f => Text.fold f.1 = Text.fold token).map Prod.snd).getLast?
  | _ => none

/-- The label in effect for a token: that of the call, or else that of the evaluator. -/
def inEffect? (own call : Value) (token : String) : Option Value :=
  (member? call token).or (member? own token)

variable {labels : Labels} {v : Value} {token : String}

/-- A catalogue is made of the members of the supplied labels. -/
theorem eq_ofList_members (h : ofValue? v = some labels) : labels = Keyed.ofList v.members := by
  cases v with
  | object fields => exact (Option.some.inj h).symm
  | _ =>
      unfold ofValue? at h
      exact (Option.some.inj (Option.ite_none_left_eq_some.mp h).2).symm

theorem get?_of_ofValue? (h : ofValue? v = some labels) (token : String) :
    labels.get? token = member? v token := by
  rw [eq_ofList_members h, Keyed.get?_ofList]
  cases v <;> rfl

theorem distinct_of_ofValue? (h : ofValue? v = some labels) : Keyed.Distinct labels.entries := by
  rw [eq_ofList_members h]
  exact Keyed.distinct_ofList _

/-- A label is a value of the object. -/
theorem bytesFree_of_member? (hv : v.BytesFree) {w : Value} (h : member? v token = some w) :
    w.BytesFree := by
  cases v with
  | object fields =>
      obtain ⟨f, hf, rfl⟩ := List.mem_map.mp (List.mem_of_getLast? h)
      exact Value.bytesFree_object.mp hv f (List.mem_of_mem_filter hf)
  | _ => cases h

theorem bytesFree_of_inEffect? {own call : Value} (ho : own.BytesFree) (hc : call.BytesFree)
    {w : Value} (h : inEffect? own call token = some w) : w.BytesFree := by
  rcases Option.or_eq_some_iff.mp h with h | ⟨-, h⟩
  · exact bytesFree_of_member? hc h
  · exact bytesFree_of_member? ho h

/-- The labels of a call over those of the evaluator have for a token the label in effect. -/
theorem get?_merge_of_ofValue? {own call : Value} {labels added : Labels}
    (ho : ofValue? own = some labels) (hc : ofValue? call = some added) (token : String) :
    (labels.merge added).get? token = inEffect? own call token := by
  rw [Keyed.get?_merge labels (distinct_of_ofValue? hc), get?_of_ofValue? hc, get?_of_ofValue? ho,
    inEffect?]

/-- A token is described by a text unless it has a label that is given and cannot be read as one. -/
theorem isSome_text?_iff :
    (labels.text? token).isSome = true ↔
      ∀ v, labels.get? token = some v → v.isGiven = true → v.asText?.isSome = true := by
  unfold text? describe
  cases hv : labels.get? token with
  | none => exact ⟨nofun, fun _ => rfl⟩
  | some v =>
      dsimp only
      split
      · next hg => exact ⟨fun h w hw _ => Option.some.inj hw ▸ h, fun h => h v rfl hg⟩
      · next hg => exact ⟨fun _ w hw hg' => absurd (Option.some.inj hw ▸ hg') hg, fun _ => rfl⟩

theorem isSome_asText?_iff (h : v.BytesFree) :
    v.asText?.isSome = true ↔ ∃ s, v = .text s := by
  cases h with
  | text s => exact ⟨fun _ => ⟨s, rfl⟩, fun _ => rfl⟩
  | _ => exact ⟨nofun, nofun⟩

end Labels

/-- Whether every condition of a document has a token whose label in effect is a text or is not
given. -/
def Document.LabelsFit (d : Document) (own call : Value) : Prop :=
  ∀ o ∈ Group.allOccurrences d.groups, ∀ v, Labels.inEffect? own call o.condition.token = some v →
    v.isGiven = true → ∃ s, v = .text s

theorem Document.labelsFit_iff {d : Document} {own call : Value} {labels added : Labels}
    (ho : Labels.ofValue? own = some labels) (hob : own.BytesFree)
    (hc : Labels.ofValue? call = some added) (hcb : call.BytesFree) :
    d.LabelsFit own call ↔
      Labels.Describes (labels.merge added) (Group.allOccurrences d.groups) := by
  refine forall₂_congr fun o _ => ?_
  rw [Labels.isSome_text?_iff, Labels.get?_merge_of_ofValue? ho hc]
  exact forall₂_congr fun v hv => imp_congr_right fun _ =>
    (Labels.isSome_asText?_iff (Labels.bytesFree_of_inEffect? hob hcb hv)).symm

/-! ### What a visit without its labels comes to -/

namespace Traced

variable {α β : Type} {x : Traced α} {f : α → Traced β}

theorem result_andThen_of_ok {a : α} (h : x.report.result = .ok a) :
    (x.andThen f).report.result = (f a).report.result := by
  rw [andThen, h]

theorem result_andThen_of_error {e : Failure} (h : x.report.result = .error e) :
    (x.andThen f).report.result = .error e := by
  rw [andThen, h]

end Traced

section
variable {s : Scope} {index : Option Int}

/-- A row of conditions ends at the first one whose token is not described by a text. -/
theorem Condition.visitAll_of_not_describes (hi : Line.index? s.index = some index)
    {parent name : String} {cs : List Condition}
    (h : ¬ ∀ c ∈ cs, (s.labels.text? c.token).isSome = true) :
    (visitAll s (pathBelow parent name) cs).report.result = .error .shape := by
  induction cs with
  | nil => exact absurd (List.forall_mem_nil _) h
  | cons c r ih =>
      rw [visitAll]
      by_cases hc : (s.labels.text? c.token).isSome = true
      · have hr : ¬ ∀ c ∈ r, (s.labels.text? c.token).isSome = true := fun hr =>
          h (List.forall_mem_cons.mpr ⟨hc, hr⟩)
        rw [visit_eq hi parent name hc, Traced.result_andThen_of_ok rfl,
          Traced.result_andThen_of_error (ih hr)]
      · have hvisit : c.visit s (pathBelow parent name) = .fail .shape := by
          rw [visit, line?, Option.not_isSome_iff_eq_none.mp hc]
        rw [hvisit]
        rfl

mutual

/-- **A visit of a group fails** if a condition in it has a token that is not described by a text. -/
theorem Group.visit_of_not_describes (hi : Line.index? s.index = some index) :
    ∀ (parent : String) (g : Group), ¬ s.labels.Describes g.occurrences →
      (g.visit s parent).report.result = .error .shape
  | parent, ⟨id, label, operator, conditions, groups⟩, h => by
      rw [Labels.Describes, occurrences, List.forall_mem_append, List.forall_mem_map,
        List.forall_mem_map] at h
      rw [visit]
      by_cases hown : ∀ c ∈ conditions, (s.labels.text? c.token).isSome = true
      · have hnested : ¬ s.labels.Describes (allOccurrences groups) := fun hn => h ⟨hown, hn⟩
        rw [Condition.visitAll_eq hi _ _ hown, Traced.result_andThen_of_ok rfl,
          Traced.result_andThen_of_error (visitAll_of_not_describes hi _ groups hnested)]
      · rw [Traced.result_andThen_of_error (Condition.visitAll_of_not_describes hi hown)]

/-- A visit of the groups of a list fails if one of them cannot be visited. -/
theorem Group.visitAll_of_not_describes (hi : Line.index? s.index = some index) :
    ∀ (parent : String) (gs : List Group), ¬ s.labels.Describes (allOccurrences gs) →
      (visitAll s parent gs).report.result = .error .shape
  | _, [], h => absurd (List.forall_mem_nil _) h
  | parent, g :: r, h => by
      rw [Labels.Describes, allOccurrences, List.forall_mem_append] at h
      rw [visitAll]
      by_cases hg : s.labels.Describes g.occurrences
      · have hr : ¬ s.labels.Describes (allOccurrences r) := fun hr => h ⟨hg, hr⟩
        rw [visit_eq hi parent g hg, Traced.result_andThen_of_ok rfl,
          Traced.result_andThen_of_error (visitAll_of_not_describes hi parent r hr)]
      · rw [Traced.result_andThen_of_error (visit_of_not_describes hi parent g hg)]

end

end

section
variable {facts : FactTable} {labels : Labels}

theorem Group.visitTop_of_not_describes (index : Nat) {gs : List Group}
    (h : ¬ labels.Describes (allOccurrences gs)) :
    (visitTop facts labels index gs).report.result = .error .shape := by
  induction gs generalizing index with
  | nil => exact absurd (List.forall_mem_nil _) h
  | cons g r ih =>
      rw [Labels.Describes, allOccurrences, List.forall_mem_append] at h
      rw [visitTop]
      by_cases hg : labels.Describes g.occurrences
      · have hr : ¬ labels.Describes (allOccurrences r) := fun hr => h ⟨hg, hr⟩
        rw [Group.visit_eq (s := ⟨facts, labels, .int index⟩) rfl rootPath g hg,
          Traced.result_andThen_of_ok rfl, Traced.result_andThen_of_error (ih (index + 1) hr)]
      · rw [Traced.result_andThen_of_error
          (Group.visit_of_not_describes (s := ⟨facts, labels, .int index⟩) rfl rootPath g hg)]

namespace Document

variable {d : Document}

theorem evaluate_of_not_describes (h : ¬ labels.Describes (Group.allOccurrences d.groups)) :
    (d.evaluate facts labels).result = .error .shape := by
  have hv : (d.visit facts labels).report.result = .error .shape :=
    Group.visitTop_of_not_describes 0 h
  rw [evaluate, Reported.andThen, hv]

theorem verdict_of_not_describes (h : ¬ labels.Describes (Group.allOccurrences d.groups)) :
    (d.verdict facts labels).report.result = .error .shape :=
  Traced.result_andThen_of_error (Group.visitTop_of_not_describes 0 h)

end Document

end

/-! ### The decimals of an evaluation -/

/-- The decimals that evaluating a condition compares, tests or converts: the numbers that its two
sides stand for, the decimals that it echoes, and what an echo is compared with. -/
inductive Condition.Reaches (facts : FactTable) (c : Condition) : Decimal → Prop
  | fact {d : Decimal} (h : (facts.lookup c.token).content.number? = some d) : Reaches facts c d
  | literal {d : Decimal} (h : (Content.of c.value.toValue).number? = some d) : Reaches facts c d
  | echoedFact {d : Decimal} (h : (facts.lookup c.token).source = .decimal (.finite d)) :
      Reaches facts c d
  | echoedLiteral {d : Decimal} (h : c.value.toValue = .decimal (.finite d)) : Reaches facts c d
  | integer {d : Decimal} (h : Reaches facts c d) (hk : d.adjusted < Decimal.integerEchoLimit)
      (hd : d.isIntegral = true) : Reaches facts c (Decimal.ofInt d.toInt)
  | float {d : Decimal} (h : Reaches facts c d) (hx : (Binary64.ofDecimal d).isFinite = true) :
      Reaches facts c (Binary64.ofDecimal d).toDecimal

/-- **Every decimal of an evaluation is in range.** -/
theorem Condition.inRange_of_reaches {facts : Value} {table : FactTable} {c : Condition}
    (hf : FactTable.ofValue? facts = some table) (hfacts : facts.InRange) (hc : c.value.InRange)
    {d : Decimal} (h : c.Reaches table d) : d.inRange = true := by
  obtain ⟨v, hv, hin⟩ := FactTable.exists_lookup hf c.token
  induction h with
  | fact h =>
      rw [hv] at h
      exact Content.inRange_number? (Content.inRange_of (hin hfacts)) h
  | literal h => exact Content.inRange_number? (Content.inRange_of hc) h
  | echoedFact h =>
      rw [hv] at h
      have hvalue : v = .decimal (.finite _) := h
      exact Value.inRange_decimal.mp (hvalue ▸ hin hfacts)
  | echoedLiteral h =>
      have hvalue : c.value.toValue.InRange := hc
      rw [h] at hvalue
      exact Value.inRange_decimal.mp hvalue
  | integer _ hk hd _ => exact Decimal.inRange_ofInt_toInt hd hk
  | float _ hx _ => exact Binary64.inRange_toDecimal hx

section
variable {facts : FactTable} {c : Condition}

/-- **An ordering holds by two of these decimals:** by the order in which they are. -/
theorem Condition.exists_reaches_of_holds {op : Comparison} (hop : c.comparison? = some op)
    (ho : op.IsOrdering) (h : c.holds facts = true) :
    ∃ x y, c.Reaches facts x ∧ c.Reaches facts y ∧ op.accepts (x.order y) = true := by
  rw [holds, accepts, hop] at h
  dsimp only at h
  have hnumbers : ∃ x y, (facts.lookup c.token).content.number? = some x ∧
      (Content.of c.value.toValue).number? = some y ∧ op.accepts (x.order y) = true := by
    unfold Comparison.holds at h
    split at h
    · exact ho.elim
    · exact ho.elim
    · split at h
      · next x y hx hy => exact ⟨x, y, hx, hy, h⟩
      · cases h
  obtain ⟨x, y, hx, hy, haccepts⟩ := hnumbers
  exact ⟨x, y, .fact hx, .literal hy, haccepts⟩

/-- **An equality is decided** by null, by the truth values of both sides, by two of these decimals, or by
the texts. -/
theorem Condition.equal_cases (facts : FactTable) (c : Condition) :
    let a := (facts.lookup c.token).content
    let e := Content.of c.value.toValue
    ((a = .null ∨ e = .null) ∧ (a.equal e = true ↔ a = e)) ∨
      (∃ p q, a.boolean? = some p ∧ e.boolean? = some q ∧ a.equal e = (p == q)) ∨
      (∃ x y, c.Reaches facts x ∧ c.Reaches facts y ∧ a.equal e = x.sameValue y) ∨
      a.equal e = (Text.fold a.text == Text.fold e.text) := by
  intro a e
  by_cases hnull : a = .null ∨ e = .null
  · refine Or.inl ⟨hnull, ?_⟩
    rcases hnull with ha | he
    · rw [ha]
      cases e <;> simp [Content.equal]
    · rw [he]
      cases a <;> simp [Content.equal]
  · obtain ⟨ha, he⟩ := not_or.mp hnull
    rw [Content.equal_eq ha he]
    refine Or.inr ?_
    split
    · next p q hp hq => exact Or.inl ⟨p, q, hp, hq, rfl⟩
    · split
      · next x y hx hy => exact Or.inr (Or.inl ⟨x, y, .fact hx, .literal hy, rfl⟩)
      · exact Or.inr (Or.inr rfl)

/-- **The echo of one of these decimals** is a number only of another one. -/
theorem Condition.Reaches.echo {d x : Decimal} (h : c.Reaches facts d)
    (hx : Content.of d.echo = .number x) : c.Reaches facts x := by
  unfold Decimal.echo at hx
  split at hx
  · next hint =>
    rw [Bool.and_eq_true, decide_eq_true_eq] at hint
    obtain rfl := Content.number.inj hx
    exact h.integer hint.1 hint.2
  · dsimp only at hx
    split at hx
    · next hfloat =>
      have hfinite := (Bool.and_eq_true_iff.mp hfloat).1
      rw [Content.of, if_pos hfinite] at hx
      obtain rfl := Content.number.inj hx
      exact h.float hfinite
    · cases hx

/-- The number that an echo is, is that of the value, or that of the echo of a decimal. -/
theorem Value.number_of_echo {v : Value} {x : Decimal} (h : Content.of v.echo = .number x) :
    (Content.of v).number? = some x ∨ ∃ d, v = .decimal (.finite d) ∧ Content.of d.echo = .number x := by
  cases v with
  | decimal d =>
      cases d with
      | finite d => exact Or.inr ⟨d, rfl, h⟩
      | _ => cases h
  | int n => exact Or.inl (congrArg Content.number? h)
  | float y => exact Or.inl (congrArg Content.number? h)
  | _ => cases h

/-- **A line shows no number but these decimals,** on either side. -/
theorem Condition.reaches_of_shown {supplied : Value} (hf : FactTable.ofValue? supplied = some facts)
    {x : Decimal} (h : Content.of (facts.lookup c.token).echo = .number x ∨
      Content.of c.value.toValue.echo = .number x) : c.Reaches facts x := by
  rcases h with hactual | hexpected
  · obtain ⟨v, hv, -⟩ := FactTable.exists_lookup hf c.token
    rw [hv, Fact.echo, Fact.of] at hactual
    rcases Value.number_of_echo hactual with hnumber | ⟨d, rfl, hecho⟩
    · exact .fact (by rw [hv]; exact hnumber)
    · exact Reaches.echo (.echoedFact (by rw [hv]; rfl)) hecho
  · rcases Value.number_of_echo hexpected with hnumber | ⟨d, hd, hecho⟩
    · exact .literal hnumber
    · exact Reaches.echo (.echoedLiteral hd) hecho

end

/-! ### Evaluating supplied rules -/

/-- What either succeeds or fails, as a condition has it, succeeds exactly on that condition. -/
theorem exists_ok_iff {ε α : Type} {r : Except ε α} {p : Prop} {e : ε} (hok : p → ∃ a, r = .ok a)
    (herror : ¬ p → r = .error e) : (∃ a, r = .ok a) ↔ p := by
  refine ⟨fun ⟨a, ha⟩ => ?_, hok⟩
  by_contra hp
  cases ha.symm.trans (herror hp)

section
variable {rules facts call : Value} {d : Document} {table : FactTable} {added : Labels}

/-- What evaluating supplied rules comes to is up to their document, the facts and the labels. -/
theorem result_evaluateRules (labels : Labels) (hd : (Document.read rules).result = .ok d)
    (hf : FactTable.ofValue? facts = some table) (hc : Labels.ofValue? call = some added) :
    (evaluateRules labels rules facts call).result =
      (d.evaluate table (labels.merge added)).result := by
  rw [evaluateRules_eq_andThen, Reported.result_andThen, hd]
  exact congrArg Reported.result (Document.evaluateSupplied_eq labels hf hc d)

theorem result_verdictOfRules (hd : (Document.read rules).result = .ok d)
    (hf : FactTable.ofValue? facts = some table) (hc : Labels.ofValue? call = some added) :
    (verdictOfRules rules facts call).report.result =
      (d.verdict table (Keyed.empty.merge added)).report.result := by
  have hread : (Traced.ofReported (Document.read rules)).report.result = .ok d := hd
  rw [verdictOfRules, Traced.result_andThen_of_ok hread, suppliedFacts_eq hf,
    suppliedLabels_eq _ hc, Traced.ofReported_done_andThen, Traced.ofReported_done_andThen]

end

/-- **An evaluation comes to an end unless a label does not fit.**  For rules that stand for a
document, facts of any kind, and labels that are JSON values, of an evaluator and of a call:

* evaluating gives an outcome exactly if no condition has a token whose label in effect is given and
  is no text, and is a failure of shape otherwise;
* so does the verdict by itself, for which the call alone has labels;
* the summaries are always there;
* every decimal that is compared, tested or converted on the way is in range. -/
theorem evaluations_return_iff {rules facts own call : Value} {d : Document} {table : FactTable}
    {labels added : Labels} (hrules : rules.InRange) (hfacts : facts.InRange)
    (hob : own.BytesFree) (hcb : call.BytesFree) (hd : (Document.read rules).result = .ok d)
    (hf : FactTable.ofValue? facts = some table) (ho : Labels.ofValue? own = some labels)
    (hc : Labels.ofValue? call = some added) :
    ((∃ o, (evaluateRules labels rules facts call).result = .ok o) ↔ d.LabelsFit own call) ∧
      (¬ d.LabelsFit own call → (evaluateRules labels rules facts call).result = .error .shape) ∧
      ((∃ b, (verdictOfRules rules facts call).report.result = .ok b) ↔ d.LabelsFit .null call) ∧
      (¬ d.LabelsFit .null call →
        (verdictOfRules rules facts call).report.result = .error .shape) ∧
      (∃ ss, (summariesOfRules rules facts).result = .ok ss) ∧
      ∀ o ∈ Group.allOccurrences d.groups, ∀ x, o.condition.Reaches table x → x.inRange = true := by
  have hevaluate : ¬ d.LabelsFit own call →
      (evaluateRules labels rules facts call).result = .error .shape := by
    rw [Document.labelsFit_iff ho hob hc hcb, result_evaluateRules labels hd hf hc]
    exact Document.evaluate_of_not_describes
  have hnull : Labels.ofValue? .null = some Keyed.empty := rfl
  have hverdict : ¬ d.LabelsFit .null call →
      (verdictOfRules rules facts call).report.result = .error .shape := by
    rw [Document.labelsFit_iff hnull .null hc hcb, result_verdictOfRules hd hf hc]
    exact Document.verdict_of_not_describes
  refine ⟨exists_ok_iff ?_ hevaluate, hevaluate, exists_ok_iff ?_ hverdict, hverdict, ?_, ?_⟩
  · rw [Document.labelsFit_iff ho hob hc hcb, result_evaluateRules labels hd hf hc]
    exact fun h => ⟨_, congrArg Reported.result (d.evaluate_eq table h)⟩
  · rw [Document.labelsFit_iff hnull .null hc hcb, result_verdictOfRules hd hf hc]
    exact fun h => ⟨_, congrArg (·.report.result) (d.verdict_eq table h)⟩
  · have hread : Document.read rules = ⟨(Document.read rules).notices, .ok d⟩ := by rw [← hd]
    exact ⟨_, congrArg Reported.result (summariesOfRules_eq hread hf)⟩
  · intro o hmem x
    have hliteral : o.condition.value ∈ d.literals := by
      rw [Document.literals, Group.allLiterals_eq_map]
      exact List.mem_map_of_mem hmem
    exact Condition.inRange_of_reaches hf hfacts (Document.inRange_of_read hrules hd _ hliteral)

namespace Sample

/-- A label of an evaluator that is a number. -/
def numbered : Value := .object [("income", .int 5)]

/-- The hypotheses of `evaluations_return_iff` are satisfiable: the number ends an evaluation, unless
the call has a label for the token, however it spells it. -/
theorem evaluations_return_numbered :
    ∃ own, Labels.ofValue? numbered = some own ∧
      (∃ o, (evaluateRules own rules facts labels).result = .ok o) ∧
      (evaluateRules own rules facts .null).result = .error .shape ∧
      ∃ ss, (summariesOfRules rules facts).result = .ok ss := by
  have hrules : rules.InRange := by
    have hage : (Decimal.ofInt 18).inRange = true := by decide +kernel
    have hincome : (Decimal.ofInt 2500).inRange = true := by decide +kernel
    simp [rules, hage, hincome]
  have hfacts : facts.InRange := by simp [facts]
  have hnumbered : numbered.BytesFree := by simp [numbered]
  have hlabels : labels.BytesFree := by simp [labels]
  have hd : (Document.read rules).result = .ok document := rfl
  have hf : FactTable.ofValue? facts = some table := rfl
  have hfit : document.LabelsFit numbered labels := by
    have hage : Labels.inEffect? numbered labels "age" = none := rfl
    have hincome : Labels.inEffect? numbered labels "INCOME" = some (.text "Monthly income") := rfl
    have hresident : Labels.inEffect? numbered labels "Resident" = none := rfl
    intro o ho v hv _
    simp only [document, Group.allOccurrences, Group.occurrences, List.map_cons, List.map_nil,
      List.append_nil, List.nil_append, List.cons_append, List.mem_cons, List.not_mem_nil,
      or_false] at ho
    rcases ho with rfl | rfl | rfl
    · cases hage.symm.trans hv
    · exact ⟨_, (Option.some.inj (hincome.symm.trans hv)).symm⟩
    · cases hresident.symm.trans hv
  have hunfit : ¬ document.LabelsFit numbered .null := by
    intro h
    have ho : ⟨["Income"], "", "INCOME", ">=", .integer 2500⟩ ∈
        Group.allOccurrences document.groups := List.mem_cons_of_mem _ List.mem_cons_self
    obtain ⟨s, hs⟩ := h _ ho (.int 5) rfl rfl
    cases hs
  have hreturn := evaluations_return_iff hrules hfacts hnumbered hlabels hd hf rfl rfl
  have hend := evaluations_return_iff hrules hfacts hnumbered .null hd hf rfl rfl
  exact ⟨_, rfl, hreturn.1.mpr hfit, hend.2.1 hunfit, hend.2.2.2.2.1⟩

end Sample

end Verdict
