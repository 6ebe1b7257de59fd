/-
# Written documents are read back

A document that was read and written out is read back as a document of the same tree
(`read_of_wire`).  Labels and literals may change on the way:

| part | comes back as |
| --- | --- |
| a label that is blank | the id of its group |
| an integral decimal below `10 ^ 18` | the integer |
| another decimal that is the text of a binary64 number | the decimal that the text writes |
| any other decimal | its scientific text |
| anything else | itself |

A literal stands for the same number afterwards.  If it did not become a text, no comparison tells it
from what it was.
-/

import Verdict.Criteria.Wire
import Verdict.Proofs.DecimalEcho
import Verdict.Proofs.TraceOrder

namespace Verdict

open Value

/-! ### Literals -/

namespace Literal

/-- Whether a literal is a decimal that is written as a text. -/
def WrittenAsText (l : Literal) : Prop := ∃ d s, l = .decimal d ∧ d.echo = .text s

/-- Whether a literal stands for the same number as another, and is of its kind and value unless that
is written as a text. -/
def Restored (l l' : Literal) : Prop :=
  (Content.of l'.toValue).value? = (Content.of l.toValue).value? ∧
    (¬ l.WrittenAsText → l.toValue.Alike l'.toValue)

theorem Restored.rfl {l : Literal} : l.Restored l := ⟨Eq.refl _, fun _ => Content.Alike.rfl⟩

/-- A literal has the content of the value that it is read from. -/
theorem content_of_ofValue? {v : Value} (hb : v.BytesFree) {l : Literal} (h : ofValue? v = some l) :
    Content.of l.toValue = Content.of v := by
  cases hb with
  | decimal d =>
      cases d with
      | finite d => exact Option.some.inj h ▸ Eq.refl _
      | _ => cases h
  | float x =>
      obtain rfl := Option.some.inj h
      rw [Content.of]
      split <;> rfl
  | null => exact Option.some.inj h ▸ Eq.refl _
  | bool b => exact Option.some.inj h ▸ Eq.refl _
  | int n => exact Option.some.inj h ▸ Eq.refl _
  | text s => exact Option.some.inj h ▸ Eq.refl _
  | _ => cases h

theorem exists_ofValue?_echo_decimal (d : Decimal) :
    d.echo.BytesFree ∧ ∃ l, ofValue? d.echo = some l := by
  unfold Decimal.echo
  split
  · exact ⟨.int _, _, Eq.refl _⟩
  · dsimp only
    split
    · exact ⟨.float _, _, Eq.refl _⟩
    · exact ⟨.text _, _, Eq.refl _⟩

/-- **The echo of a literal** is read back as that literal, restored. -/
theorem exists_ofValue?_echo {l : Literal} (h : l.InRange) :
    ∃ l', ofValue? l.toValue.echo = some l' ∧ l.Restored l' := by
  cases l with
  | decimal d =>
      have hd : d.inRange = true := Value.inRange_decimal.mp h
      obtain ⟨hb, l', hl'⟩ := exists_ofValue?_echo_decimal d
      have hcontent := content_of_ofValue? hb hl'
      refine ⟨l', hl', ?_, fun hnot => ?_⟩
      · rw [hcontent, Decimal.value?_echo hd]
        rfl
      · unfold Value.Alike
        rw [hcontent]
        exact (Decimal.echo_cases hd).resolve_right fun ht => hnot ⟨d, _, Eq.refl _, ht⟩
  | null => exact ⟨.null, Eq.refl _, .rfl⟩
  | boolean b => exact ⟨.boolean b, Eq.refl _, .rfl⟩
  | integer n => exact ⟨.integer n, Eq.refl _, .rfl⟩
  | text s => exact ⟨.text s, Eq.refl _, .rfl⟩

end Literal

/-! ### Conditions -/

namespace Condition

/-- Whether a condition is another with its literal restored. -/
def Restored (c c' : Condition) : Prop :=
  c'.id = c.id ∧ c'.token = c.token ∧ c'.operator = c.operator ∧ c.value.Restored c'.value

theorem exists_ofValue?_toValue {c : Condition} (h : c.value.InRange) :
    ∃ c', ofValue? c.toValue = some c' ∧ c.Restored c' := by
  obtain ⟨l, hl, hr⟩ := Literal.exists_ofValue?_echo h
  refine ⟨⟨c.id, c.token, c.operator, l⟩, ?_, rfl, rfl, rfl, hr⟩
  simp [toValue, ofValue?, ofFields?, memberText?, lookup?, scalarText?, asText?, hl]

theorem exists_ofValues?_toValue {cs : List Condition} (h : ∀ c ∈ cs, c.value.InRange) :
    ∃ cs', ofValues? (cs.map toValue) = some cs' ∧ List.Forall₂ Restored cs cs' := by
  induction cs with
  | nil => exact ⟨[], rfl, .nil⟩
  | cons c r ih =>
      rw [List.forall_mem_cons] at h
      obtain ⟨c', hc, hcr⟩ := exists_ofValue?_toValue h.1
      obtain ⟨r', hr, hrr⟩ := ih h.2
      refine ⟨c' :: r', ?_, .cons hcr hrr⟩
      rw [List.map_cons, ofValues?, hc, hr]
      rfl

end Condition

/-! ### Groups -/

namespace Group

/-- The label of a group, or its id where that is blank. -/
def filledLabel (id label : String) : String := if Text.allBlank label then id else label

theorem ofCombinator_word (op : Combinator) : Combinator.ofValue (.text op.word) = op := by
  cases op <;> decide

mutual

/-- **A written group is read back.** -/
theorem exists_ofValue?_toValue : ∀ g : Group, (∀ l ∈ g.literals, l.InRange) →
    ∃ g', ofValue? g.toValue = some g' ∧ g.Matches filledLabel Condition.Restored g'
  | ⟨id, label, operator, conditions, groups⟩, h => by
      rw [literals, List.forall_mem_append, List.forall_mem_map] at h
      obtain ⟨cs, hcs, hc⟩ := Condition.exists_ofValues?_toValue h.1
      obtain ⟨gs, hgs, hg⟩ := exists_ofValues?_toValues groups h.2
      refine ⟨⟨id, filledLabel id label, operator, cs, gs⟩, ?_, ?_⟩
      · rw [toValue, ofValue?_object]
        simp [member, subgroups, lookup?, scalarText?, asText?, labelOf?, Condition.listOfFields?,
          asItems?, ofItems?, hcs, hgs, ofCombinator_word, filledLabel]
      · rw [Matches]
        exact ⟨rfl, rfl, rfl, hc, hg⟩

theorem exists_ofValues?_toValues : ∀ gs : List Group, (∀ l ∈ allLiterals gs, l.InRange) →
    ∃ gs', ofValues? (toValues gs) = some gs' ∧ AllMatch filledLabel Condition.Restored gs gs'
  | [], _ => ⟨[], rfl, trivial⟩
  | g :: r, h => by
      rw [allLiterals, List.forall_mem_append] at h
      obtain ⟨g', hg, hgm⟩ := exists_ofValue?_toValue g h.1
      obtain ⟨r', hr, hrm⟩ := exists_ofValues?_toValues r h.2
      refine ⟨g' :: r', ?_, hgm, hrm⟩
      rw [toValues, ofValues?, hg, hr]
      rfl

end

end Group

/-! ### Documents -/

namespace Condition

variable {c c' : Condition}

/-- An ordering takes a restored literal for what it was. -/
theorem holds_of_restored (h : c.Restored c') {op : Comparison} (hop : c.comparison? = some op)
    (ho : op.IsOrdering) (table : FactTable) : c'.holds table = c.holds table := by
  obtain ⟨-, ht, hoperator, hv, -⟩ := h
  unfold comparison? at hop
  unfold holds accepts comparison?
  rw [ht, hoperator, hop]
  dsimp only
  rw [Comparison.holds_of_isOrdering ho, Comparison.holds_of_isOrdering ho, hv]

theorem alike_of_restored (hnot : ¬ c.value.WrittenAsText) (h : c.Restored c') : c.Alike c' :=
  ⟨h.1, h.2.1, h.2.2.1, h.2.2.2.2 hnot⟩

end Condition

namespace Document

/-- A written document is read back. -/
theorem exists_read_toValue {d : Document} (hl : ∀ l ∈ d.literals, l.InRange)
    (hdepth : Group.depths d.groups ≤ maxDepth) :
    ∃ d', read d.toValue = .done d' ∧ d.Matches Group.filledLabel Condition.Restored d' := by
  obtain ⟨gs, hgs, hg⟩ := Group.exists_ofValues?_toValues d.groups hl
  refine ⟨⟨d.operator, gs⟩, ?_, rfl, hg⟩
  have hfields : ofFields? [("operator", .text d.operator.word),
      ("groups", .list (Group.toValues d.groups))] = some ⟨d.operator, gs⟩ := by
    rw [ofFields?, Group.ofMember?_eq]
    simp [lookup?, Group.ofItems?, hgs, Group.depths_of_allMatch _ _ hg, hdepth,
      Group.ofCombinator_word]
  change ofValue d.toValue = _
  rw [toValue, ofValue]
  simp [lookup?, hfields]

variable {d d' : Document}

/-- Where no decimal is written as a text, a document that is read back is the same but for its labels
and the forms of numbers. -/
theorem matches_alike (hnot : ∀ l ∈ d.literals, ¬ l.WrittenAsText)
    (h : d.Matches Group.filledLabel Condition.Restored d') :
    d.Matches Group.filledLabel Condition.Alike d' := by
  rw [literals, Group.allLiterals_eq_map, List.forall_mem_map] at hnot
  exact ⟨h.1, Group.AllMatch.imp _ _ h.2 fun o ho c =>
    Condition.alike_of_restored (hnot o ho)⟩

/-- **Evaluations of documents that are alike but for their labels** pass the same conditions, end with
the same verdict, and give the same summaries but for the labels. -/
theorem evaluate_of_matches_alike {rewrite : String → String → String}
    (h : d.Matches rewrite Condition.Alike d') (table : FactTable) {labels : Labels}
    (hlabels : labels.AreTexts) :
    ∃ o o', (d.evaluate table labels).result = .ok o ∧ (d'.evaluate table labels).result = .ok o' ∧
      o'.overall = o.overall ∧ o'.lines.map (·.passed) = o.lines.map (·.passed) ∧
      o'.summaries = o.summaries.map (Summary.relabel rewrite) := by
  have hold (c c' : Condition) : c.Alike c' → c.holds table = c'.holds table :=
    Condition.holds_of_alike fun _ => .rfl
  have hpassed (d : Document) : (d.lines table labels).map (·.passed) =
      (Group.allOccurrences d.groups).map (·.condition.holds table) :=
    d.map_lines table fun _ _ => by rw [Occurrence.line]
  rw [d.evaluate_eq table (hlabels.describes _), d'.evaluate_eq table (hlabels.describes _)]
  refine ⟨_, _, rfl, rfl, (holds_of_matches hold h).symm, ?_, groupSummaries_of_matches hold h⟩
  rw [hpassed, hpassed, ← List.forall₂_eq_eq_eq, List.forall₂_map_left_iff,
    List.forall₂_map_right_iff]
  exact ((Group.forall₂_allOccurrences _ _ h.2).imp fun o o' ho => (hold _ _ ho).symm).flip

end Document

/-- **Written documents are read back.**  Let a document be read and written out.  Reading the result
gives, without a notice, a document

* of the same tree, with the labels that are blank filled in and each literal restored: it stands for
  the same number, and is of the same kind and value unless it is a decimal written as a text;
* whose conditions hold for the same facts where their operators order;
* which, if no literal is a decimal written as a text, evaluates for any facts and any labels that are
  texts to the same verdict, with the same conditions passing and the same summaries, but for labels
  that were filled in. -/
theorem read_of_wire {rules : Value} (hrules : rules.InRange) {d : Document}
    (hd : (Document.read rules).result = .ok d) {w : Value} (hw : d.wire? = some w) :
    ∃ d', Document.read w = .done d' ∧ d.Matches Group.filledLabel Condition.Restored d' ∧
      (∀ table, List.Forall₂ (fun o o' => ∀ op ∈ o.condition.comparison?, op.IsOrdering →
          o'.condition.holds table = o.condition.holds table)
        (Group.allOccurrences d.groups) (Group.allOccurrences d'.groups)) ∧
      ((∀ l ∈ d.literals, ¬ l.WrittenAsText) → ∀ table labels, labels.AreTexts →
        ∃ o o', (d.evaluate table labels).result = .ok o ∧
          (d'.evaluate table labels).result = .ok o' ∧ o'.overall = o.overall ∧
          o'.lines.map (·.passed) = o.lines.map (·.passed) ∧
          o'.summaries = o.summaries.map (Summary.relabel Group.filledLabel)) := by
  obtain ⟨-, hwire⟩ := Option.ite_none_right_eq_some.mp hw
  obtain rfl := Option.some.inj hwire
  obtain ⟨d', hread, hm⟩ := Document.exists_read_toValue (Document.inRange_of_read hrules hd)
    (Document.depths_le_of_read hd)
  refine ⟨d', hread, hm, fun table => ?_, fun hnot table labels hlabels =>
    Document.evaluate_of_matches_alike (Document.matches_alike hnot hm) table hlabels⟩
  exact (Group.forall₂_allOccurrences _ _ hm.2).imp fun o o' ho op hop horder =>
    Condition.holds_of_restored ho hop horder table

namespace Sample

/-- Rules with a limit on a height. -/
def measured : Value :=
  .object [("groups", .list [.object [("id", .text "size"), ("conditions", .list [
    .object [("token", .text "height"), ("operator", .text ">="),
      ("value", .decimal (.finite ⟨false, 1250, -1⟩))]])]])]

/-- The document that the rules stand for. -/
def measuredDocument : Document :=
  ⟨.all, [⟨"size", "size", .all, [⟨"", "height", ">=", .decimal ⟨false, 1250, -1⟩⟩], []⟩]⟩

/-- The hypotheses of `read_of_wire` are satisfiable: the limit is written as the integer 125. -/
theorem read_of_wire_measured :
    measured.InRange ∧ (∀ l ∈ measuredDocument.literals, ¬ l.WrittenAsText) ∧
      ∃ d' o o', Document.read measuredDocument.toValue = .done d' ∧
        (measuredDocument.evaluate Keyed.empty Keyed.empty).result = .ok o ∧
        (d'.evaluate Keyed.empty Keyed.empty).result = .ok o' ∧ o'.overall = o.overall := by
  have hin : measured.InRange := by
    have hlimit : (⟨false, 1250, -1⟩ : Decimal).inRange = true := by decide +kernel
    simp [measured, hlimit]
  have hnot : ∀ l ∈ measuredDocument.literals, ¬ l.WrittenAsText := by
    have hecho : Decimal.echo ⟨false, 1250, -1⟩ = .int (Decimal.toInt ⟨false, 1250, -1⟩) :=
      if_pos (by decide +kernel)
    intro l hl
    obtain rfl := List.mem_singleton.mp hl
    rintro ⟨_, s, ⟨⟩, h⟩
    rw [hecho] at h
    cases h
  have hd : (Document.read measured).result = .ok measuredDocument := rfl
  have hw : measuredDocument.wire? = some measuredDocument.toValue := rfl
  obtain ⟨d', hread, -, -, heval⟩ := read_of_wire hin hd hw
  obtain ⟨o, o', ho, ho', hoverall, -⟩ :=
    heval hnot Keyed.empty Keyed.empty Labels.areTexts_empty
  exact ⟨hin, hnot, d', o, o', hread, ho, ho', hoverall⟩

/-- Rules with a group whose label is a blank byte string. -/
def blankLabelled : Value :=
  .object [("groups", .list [.object [("id", .text "g"), ("label", .bytes [0x20])]])]

/-- The label is taken as it is, and comes back as the id. -/
theorem blank_label_not_restored :
    ∃ d w d', (Document.read blankLabelled).result = .ok d ∧ d.wire? = some w ∧
      (Document.read w).result = .ok d' ∧ d.groups.map (·.label) = [" "] ∧
      d'.groups.map (·.label) = ["g"] :=
  ⟨⟨.all, [⟨"g", " ", .all, [], []⟩]⟩, _, ⟨.all, [⟨"g", "g", .all, [], []⟩]⟩, rfl, rfl, rfl, rfl,
    rfl⟩

end Sample

end Verdict
