/-
# Facts that were echoed

An assessment echoes its facts under the spellings that won, each value as null, a truth value, an
integer, a binary64 number or a text.  These echoes are facts again, and they make up the same table:

| part of the table | from the echoes |
| --- | --- |
| names and their order | the same, since no two of them have one folding (`Keyed.ofList_map`) |
| the content of a fact | the same, unless it was a decimal (`Content.of_echo`) |
| the echo of a fact | the same, as an echo is its own (`Value.echo_echo`) |

Nothing else of a table is looked at, so facts without decimals are assessed as their echoes are
(`assess_echoes`).
-/

import Verdict.Proofs.Gate
import Verdict.Proofs.LastWritten
import Verdict.Proofs.Matching

namespace Verdict

/-! ### Tables from their own entries -/

namespace Keyed

variable {α β : Type}

/-- The table with every value changed. -/
def map (f : α → β) (t : Keyed α) : Keyed β := ⟨t.entries.map fun e => ⟨e.key, e.name, f e.value⟩⟩

theorem toList_map (f : α → β) (t : Keyed α) :
    (t.map f).toList = t.toList.map fun p => (p.1, f p.2) := by
  rw [toList, toList, map, List.map_map, List.map_map]
  rfl

theorem get?_map (f : α → β) (t : Keyed α) (name : String) :
    (t.map f).get? name = (t.get? name).map f := by
  unfold get? find? map
  generalize t.entries = es
  induction es with
  | nil => rfl
  | cons e r ih =>
      rw [List.map_cons, entry?, entry?]
      split
      · rfl
      · exact ih

/-- Whether the entries of a table stand under the foldings of their names. -/
def Folded (es : List (Entry α)) : Prop := ∀ e ∈ es, e.key = Text.fold e.name

theorem folded_ofList (pairs : List (String × α)) : Folded (ofList pairs).entries := by
  have hputAll : ∀ t : Keyed α, Folded t.entries → Folded (t.putAll pairs).entries := by
    induction pairs with
    | nil => exact fun _ h => h
    | cons p r ih =>
        refine fun t h => ih (t.put p.1 p.2) fun e he => ?_
        rcases mem_putEntry he with rfl | he
        · rfl
        · exact h e he
  exact hputAll empty fun _ h => absurd h List.not_mem_nil

/-- An entry with a folding of its own comes last. -/
theorem putEntry_of_forall_ne {new : Entry α} {es : List (Entry α)}
    (h : ∀ e ∈ es, e.key ≠ new.key) : putEntry new es = es ++ [new] := by
  induction es with
  | nil => rfl
  | cons e r ih =>
      rw [List.forall_mem_cons] at h
      rw [putEntry, if_neg h.1, ih h.2]
      rfl

/-- **A table is that of its own list of names and values,** also with the values changed. -/
theorem ofList_map {t : Keyed α} (hd : Distinct t.entries) (hf : Folded t.entries) (f : α → β) :
    ofList (t.toList.map fun p => (p.1, f p.2)) = t.map f := by
  -- what is left to put in has foldings that are not in the table yet
  have hputAll : ∀ (es : List (Entry α)) (done : List (Entry β)), Distinct es → Folded es →
      (∀ e ∈ es, ∀ d ∈ done, d.key ≠ e.key) →
        putAll ⟨done⟩ (es.map fun e => (e.name, f e.value)) =
          ⟨done ++ es.map fun e => ⟨e.key, e.name, f e.value⟩⟩ := by
    intro es
    induction es with
    | nil =>
        intro done _ _ _
        rw [List.map_nil, List.map_nil, List.append_nil]
        rfl
    | cons e r ih =>
        intro done hd hf hnew
        obtain ⟨he, hr⟩ := List.pairwise_cons.mp hd
        rw [Folded, List.forall_mem_cons] at hf
        rw [List.forall_mem_cons] at hnew
        have hput : put ⟨done⟩ e.name (f e.value) = ⟨done ++ [⟨e.key, e.name, f e.value⟩]⟩ := by
          rw [put, ← hf.1, putEntry_of_forall_ne hnew.1]
        rw [List.map_cons, putAll, List.foldl_cons, ← putAll, hput, ih _ hr hf.2, List.map_cons,
          List.append_assoc, List.singleton_append]
        intro e' he' d hd'
        rcases List.mem_append.mp hd' with hd' | hd'
        · exact hnew.2 e' he' d hd'
        · rw [List.mem_singleton.mp hd']
          exact he e' he'
  rw [toList, List.map_map]
  exact hputAll t.entries [] hd hf fun _ _ _ h => absurd h List.not_mem_nil

end Keyed

/-! ### Facts from their echoes -/

namespace Value

/-- Whether a value is a decimal number. -/
def IsExact (v : Value) : Prop := ∃ d, v = .decimal (.finite d)

variable {v : Value}

/-- An echo is its own echo. -/
theorem echo_echo (h : ¬ v.IsExact) : v.echo.echo = v.echo := by
  cases v with
  | decimal d =>
      cases d with
      | finite d => exact absurd ⟨d, rfl⟩ h
      | _ => rfl
  | _ => rfl

/-- **The echo of a value has its content,** unless the value is a decimal. -/
theorem content_echo (h : ¬ v.IsExact) : Content.of v.echo = Content.of v := by
  cases v with
  | decimal d =>
      cases d with
      | finite d => exact absurd ⟨d, rfl⟩ h
      | _ => rfl
  | _ => rfl

end Value

/-- Whether a fact shows as another and compares as it. -/
def Fact.Same (f f' : Fact) : Prop := f'.content = f.content ∧ f'.echo = f.echo

/-- A fact that is made of the echo of another. -/
def Fact.echoed (f : Fact) : Fact := Fact.of f.echo

theorem Fact.same_echoed {v : Value} (h : ¬ v.IsExact) : (Fact.of v).Same (Fact.of v).echoed :=
  ⟨Value.content_echo h, Value.echo_echo h⟩

namespace FactTable

/-- The table of the echoes of a table. -/
theorem ofFields_echoes (fields : List (String × Value)) :
    ofFields (ofFields fields).echoes = (ofFields fields).map Fact.echoed := by
  rw [ofFields, echoes, List.map_map]
  exact Keyed.ofList_map (Keyed.distinct_ofList _) (Keyed.folded_ofList _) Fact.echoed

variable {fields : List (String × Value)}

/-- The facts of a table are the values that were put in. -/
theorem same_of_mem_entries (h : ∀ f ∈ fields, ¬ f.2.IsExact) {e : Entry Fact}
    (he : e ∈ (ofFields fields).entries) : e.value.Same e.value.echoed := by
  rcases Keyed.mem_entries_putAll he with he | he
  · cases he
  · rw [List.map_map] at he
    obtain ⟨p, hp, hv⟩ := List.mem_map.mp he
    exact hv ▸ Fact.same_echoed (h p hp)

/-- **Echoed facts are the same facts** under every token. -/
theorem same_lookup (h : ∀ f ∈ fields, ¬ f.2.IsExact) (token : String) :
    ((ofFields fields).lookup token).Same ((ofFields (ofFields fields).echoes).lookup token) := by
  rw [ofFields_echoes, lookup, lookup, Keyed.get?_map]
  cases hf : (ofFields fields).get? token with
  | none => exact ⟨rfl, rfl⟩
  | some f =>
      obtain ⟨e, he, rfl⟩ := Option.map_eq_some_iff.mp hf
      exact same_of_mem_entries h (Keyed.mem_of_entry_eq he)

/-- Echoed facts are echoed as they are. -/
theorem echoes_echoes (h : ∀ f ∈ fields, ¬ f.2.IsExact) :
    (ofFields (ofFields fields).echoes).echoes = (ofFields fields).echoes := by
  rw [ofFields_echoes, echoes, echoes, Keyed.toList_map, List.map_map]
  refine List.map_congr_left fun p hp => ?_
  obtain ⟨e, he, rfl⟩ := List.mem_map.mp hp
  exact congrArg (Prod.mk e.name) (same_of_mem_entries h he).2

end FactTable

/-! ### What is looked at in a table -/

namespace Group

mutual

/-- A group matches itself. -/
theorem matches_self : ∀ g : Group, g.Matches keepLabel Eq g
  | ⟨_, _, _, conditions, groups⟩ => by
      rw [Matches]
      exact ⟨rfl, rfl, rfl, List.forall₂_refl conditions, allMatch_self groups⟩

theorem allMatch_self : ∀ gs : List Group, AllMatch keepLabel Eq gs gs
  | [] => trivial
  | g :: r => ⟨matches_self g, allMatch_self r⟩

end

end Group

section
variable {facts facts' : FactTable} (hf : ∀ token, (facts.lookup token).Same (facts'.lookup token))
include hf

/-- A condition leaves the same line. -/
theorem Condition.line?_of_same (c : Condition) (labels : Labels) (index : Value) (path : String) :
    c.line? ⟨facts', labels, index⟩ path = c.line? ⟨facts, labels, index⟩ path := by
  obtain ⟨hcontent, hecho⟩ := hf c.token
  have hholds : c.holds facts' = c.holds facts := by
    rw [holds, holds, accepts, accepts, hcontent]
  unfold line?
  dsimp only
  rw [hecho, hholds]

/-- **A document is evaluated alike,** line by line. -/
theorem Document.evaluate_of_same (d : Document) (labels : Labels) :
    d.evaluate facts' labels = d.evaluate facts labels := by
  have look (c c' : Condition) (h : c = c') : c.LookAlike id labels facts' facts c' := by
    subst h
    refine Condition.lookAlike_of_lines (fun _ => rfl) fun index path => ?_
    rw [c.line?_of_same hf]
  have hview (o : Outcome) : o.mapLines id = o := by rw [Outcome.mapLines, List.map_id]
  have hself : d.Matches Group.keepLabel Eq d := ⟨rfl, Group.allMatch_self d.groups⟩
  have heval := Document.mapLines_evaluate look hself
  simpa only [hview, Reported.andThen_done] using heval

theorem Policy.parameterLines?_of_same (p : Policy) (labels : Labels) :
    p.parameterLines? facts' labels = p.parameterLines? facts labels := by
  refine congrArg p.parameters.mapM (funext fun token => ?_)
  obtain ⟨hcontent, hecho⟩ := hf token
  rw [parameter?, parameter?, Fact.describe?, Fact.describe?, Fact.describe, Fact.describe, hcontent, hecho]

end

theorem FactTable.eq_ofFields_members {facts : Value} {table : FactTable}
    (h : ofValue? facts = some table) : table = ofFields facts.members := by
  cases facts with
  | object fields => exact (Option.some.inj h).symm
  | _ =>
      unfold ofValue? at h
      exact (Option.some.inj (Option.ite_none_left_eq_some.mp h).2).symm

namespace Policy

variable (p : Policy) (own : Labels) (document : Reported Document) {facts facts' : FactTable}
  (failures : List Value) (labels : Value)

/-- The rules are assessed alike where facts and their echoes are the same. -/
theorem assessed_of_same (hf : ∀ token, (facts.lookup token).Same (facts'.lookup token))
    (he : facts'.echoes = facts.echoes) :
    p.assessed own document facts' failures labels =
      p.assessed own document facts failures labels := by
  simp only [assessed, concluded, Document.evaluate_of_same hf, p.parameterLines?_of_same hf, he]

variable {p own document failures labels} {x : Assessment}

/-- An assessment by the rules echoes all of its facts. -/
theorem facts_of_assessed (h : (p.assessed own document facts failures labels).result = .ok x) :
    x.facts = facts.echoes := by
  obtain ⟨_, -, h⟩ := Reported.exists_of_result_andThen h
  obtain ⟨_, -, h⟩ := Reported.exists_of_result_andThen h
  obtain ⟨_, -, h⟩ := Reported.exists_of_result_andThen h
  obtain ⟨_, -, h⟩ := Reported.exists_of_result_andThen h
  obtain ⟨_, -, h⟩ := Reported.exists_of_result_andThen h
  obtain ⟨_, -, h⟩ := Reported.exists_of_result_andThen h
  exact Except.ok.inj h ▸ rfl

end Policy

/-- **Echoed facts reproduce the assessment.**  Let facts without decimals be assessed under any policy,
for any rules, failures and labels.  The facts that the assessment echoes, assessed in their place,
give the same assessment with the same notices. -/
theorem assessment_of_echoes {a : Assessor} {call : Option Policy} {document : Reported Document}
    {facts : Value} {failures : List Value} {labels : Value}
    (h : ∀ f ∈ facts.members, ¬ f.2.IsExact) {x : Assessment}
    (hx : (a.assess call document facts failures labels).result = .ok x) :
    a.assess call document (.object x.facts) failures labels =
      a.assess call document facts failures labels := by
  obtain ⟨table, htable, hx⟩ := Reported.exists_of_result_andThen hx
  have hf := ofValue?_of_suppliedFacts htable
  obtain rfl := FactTable.eq_ofFields_members hf
  have hagain : FactTable.ofValue? (.object x.facts) = some (FactTable.ofFields x.facts) := rfl
  rw [Assessor.assess, Assessor.assess, Policy.assess, Policy.assess, suppliedFacts_eq hf,
    suppliedFacts_eq hagain, Reported.done_andThen, Reported.done_andThen]
  split at hx
  · next hs => rw [if_pos hs, if_pos hs]
  · next hs =>
    rw [if_neg hs, if_neg hs, Policy.facts_of_assessed hx]
    exact Policy.assessed_of_same _ _ _ _ _ (FactTable.same_lookup h) (FactTable.echoes_echoes h)

namespace Sample

/-- Facts that were collected from several places: two spellings of one token, and values of every
kind. -/
def collected : Value :=
  .object [("Income", .text "900"), ("resident", .text "yes"), ("INCOME", .text "3,000"),
    ("tags", .list [.int 1, .null]), ("photo", .bytes [0xff]), ("score", .float Binary64.nan),
    ("notes", .object [("limit", .decimal (.finite ⟨false, 15, -1⟩))])]

/-- The hypotheses of `assessment_of_echoes` are satisfiable: one entry is left for the two spellings of
the income, and assessing the echoes gives the same assessment. -/
theorem assessment_of_echoes_collected :
    (∀ f ∈ collected.members, ¬ f.2.IsExact) ∧
      ∃ x, (assessor.assess (some reporting) (Document.read rules) collected [] labels).result = .ok x ∧
        x.facts.map Prod.fst = ["INCOME", "resident", "tags", "photo", "score", "notes"] ∧
        (assessor.assess (some reporting) (Document.read rules) (.object x.facts) [] labels).result =
          .ok x ∧
        x.parameters = ["Monthly income = 3,000", "age = "] := by
  have hexact : ∀ f ∈ collected.members, ¬ f.2.IsExact := by
    simp [collected, Value.members, Value.IsExact]
  have hf : FactTable.ofValue? collected = some (FactTable.ofFields collected.members) := rfl
  have hl : Labels.ofValue? labels = some catalog := rfl
  have hread : Document.read rules = .done document := rfl
  have hopen : ¬ (reporting.blocks = true ∧ ([] : List String) ≠ []) := fun h => h.2 rfl
  have hx := reporting.result_assess_of_not_stops assessor.labels (.done document) hf hl hopen
  have hown : assessor.labels.AreTexts := Labels.areTexts_empty
  have hparameters : reporting.parameterLines? (FactTable.ofFields collected.members)
      (assessor.labels.merge catalog) = some ["Monthly income = 3,000", "age = "] := by decide +kernel
  rw [Reported.done_andThen, hparameters,
    document.evaluate_eq _ ((hown.merge areTexts_catalog).describes _)] at hx
  rw [hread]
  refine ⟨hexact, _, hx, ?_, ?_, ?_⟩
  · decide +kernel
  · exact (congrArg Reported.result
      (@assessment_of_echoes assessor (some reporting) _ _ _ _ hexact _ hx)).trans hx
  · rfl

end Sample

end Verdict
