/-
# Labels only label

The labels of a call show in the labels of the lines and nowhere else.  A line is labelled by the last of
the call's labels under a spelling of its token, or else by the last of the evaluator's, or else by the
token itself, which also stands in for an empty label (`labels_only_label`).
-/

import Verdict.Proofs.Overlays

namespace Verdict

/-! ### Labels that are texts -/

namespace Labels

/-- Labels that are texts, as they are supplied: none, or an object of them. -/
def supplied : Option (List (String × String)) → Value
  | none => .null
  | some texts => .object (texts.map fun l => (l.1, .text l.2))

/-- The label that texts have for a token: the last one, if there are several spellings of it. -/
def lastUnder (texts : List (String × String)) (token : String) : Option String :=
  ((texts.filter fun l => Text.fold l.1 = Text.fold token).map Prod.snd).getLast?

/-- The label of a line: that of the call, or else that of the evaluator; and the token where there is
none, or an empty one. -/
def onLine (own call : List (String × String)) (token : String) : String :=
  (((lastUnder call token).or (lastUnder own token)).filter (· ≠ "")).getD token

variable {labels own added : Labels} {first call : Option (List (String × String))}
  {rest : List (Option (List (String × String)))} {token : String}

theorem members_supplied (call : Option (List (String × String))) :
    (supplied call).members = (call.getD []).map fun l => (l.1, .text l.2) := by
  cases call <;> rfl

theorem isSome_ofValue?_supplied (call : Option (List (String × String))) :
    (ofValue? (supplied call)).isSome = true := by
  cases call <;> rfl

/-- What a catalogue of texts finds. -/
theorem get?_ofList_texts (texts : List (String × String)) (token : String) :
    (Keyed.ofList (texts.map fun l => (l.1, Value.text l.2))).get? token =
      (lastUnder texts token).map Value.text := by
  rw [Keyed.get?_ofList, lastUnder, ← List.getLast?_map, List.filter_map, List.map_map, List.map_map]
  rfl

/-- A token whose label is a text is described by it, or by itself if the label is missing or empty. -/
theorem text?_of_get?_text {label : Option String} (h : labels.get? token = label.map Value.text) :
    labels.text? token = some ((label.filter (· ≠ "")).getD token) := by
  unfold text? describe
  rw [h]
  cases label with
  | none => rfl
  | some s =>
      by_cases hs : s = ""
      · subst hs
        rfl
      · have hgiven : (Value.text s).isGiven = true := by simpa [Value.isGiven] using hs
        simp [Option.filter, hs, hgiven, Value.asText?]

/-- What the labels of a call over those of an evaluator find, if all of them are texts. -/
theorem text?_merge_texts
    (hown : overlaid? (supplied first) (rest.map supplied) = some own)
    (hcall : ofValue? (supplied call) = some added) (token : String) :
    text? (own.merge added) token =
      some (onLine ((first :: rest).flatMap (·.getD [])) (call.getD []) token) := by
  refine text?_of_get?_text ?_
  rw [Keyed.get?_merge own (distinct_of_ofValue? hcall), get?_overlaid hown, eq_ofList_members hcall,
    ← List.map_cons, List.flatMap_map]
  simp only [members_supplied, ← List.map_flatMap, get?_ofList_texts, Option.map_or]

end Labels

/-! ### Outcomes for different labels -/

/-- A line without its label. -/
def Line.unlabelled (l : Line) : Line := { l with label := "" }

namespace Document

variable (d : Document) (facts : FactTable) {labels labels' : Labels}

/-- The labels show nowhere in the lines but in their labels. -/
theorem map_unlabelled_lines (labels labels' : Labels) :
    (d.lines facts labels).map Line.unlabelled = (d.lines facts labels').map Line.unlabelled := by
  simp only [lines, Group.lines, List.map_flatMap, List.map_map]
  rfl

/-- Evaluations for different labels that describe the tokens are equal but for the labels. -/
theorem evaluate_unlabelled (h : labels.Describes (Group.allOccurrences d.groups))
    (h' : labels'.Describes (Group.allOccurrences d.groups)) :
    ((d.evaluate facts labels).andThen fun o => .done (o.mapLines Line.unlabelled)) =
      (d.evaluate facts labels').andThen fun o => .done (o.mapLines Line.unlabelled) := by
  have hlines := d.map_unlabelled_lines facts labels labels'
  have hlength := congrArg List.length hlines
  rw [List.length_map, List.length_map] at hlength
  simp only [d.evaluate_eq facts h, d.evaluate_eq facts h', Reported.andThen, Reported.done,
    Outcome.mapLines, hlines, hlength]

theorem describes_of_result_evaluate {o : Outcome} (h : (d.evaluate facts labels).result = .ok o) :
    labels.Describes (Group.allOccurrences d.groups) := by
  by_contra hno
  rw [evaluate_of_not_describes hno] at h
  cases h

/-- A line has the text that describes its token. -/
theorem text?_of_mem_lines (h : labels.Describes (Group.allOccurrences d.groups)) {l : Line}
    (hl : l ∈ d.lines facts labels) : labels.text? l.token = some l.label := by
  have hpairs : (d.lines facts labels).map (fun l => (l.token, l.label)) =
      (Group.allOccurrences d.groups).map fun o =>
        (o.condition.token, (labels.text? o.condition.token).getD o.condition.token) :=
    d.map_lines facts fun _ _ => rfl
  have hmem : (l.token, l.label) ∈ (d.lines facts labels).map fun l => (l.token, l.label) :=
    List.mem_map_of_mem hl
  rw [hpairs] at hmem
  obtain ⟨o, ho, heq⟩ := List.mem_map.mp hmem
  obtain ⟨htoken, hlabel⟩ := Prod.mk.inj heq
  obtain ⟨text, htext⟩ := Option.isSome_iff_exists.mp (h o ho)
  rw [← htoken, ← hlabel, htext, Option.getD_some]

end Document

section
variable {own added : Labels} {rules facts labels labels' : Value} {o o' : Outcome}

/-- What has an outcome, and what the outcome is. -/
theorem exists_of_result_evaluateRules (h : (evaluateRules own rules facts labels).result = .ok o) :
    ∃ d table added, (Document.read rules).result = .ok d ∧ FactTable.ofValue? facts = some table ∧
      Labels.ofValue? labels = some added ∧
      Labels.Describes (own.merge added) (Group.allOccurrences d.groups) ∧
      o = ⟨d.holds table, d.lines table (own.merge added), d.groupSummaries table⟩ := by
  rw [evaluateRules_eq_andThen] at h
  obtain ⟨d, hd, h⟩ := Reported.exists_of_result_andThen h
  obtain ⟨catalog, hcatalog, h⟩ := Reported.exists_of_result_andThen h
  obtain ⟨table, htable, h⟩ := Reported.exists_of_result_andThen h
  obtain ⟨added, hadded, rfl⟩ := exists_of_suppliedLabels hcatalog
  have hdescribes := d.describes_of_result_evaluate table h
  rw [d.evaluate_eq table hdescribes] at h
  exact ⟨d, table, added, hd, ofValue?_of_suppliedFacts htable, hadded, hdescribes,
    (Except.ok.inj h).symm⟩

/-- **Outcomes for different labels** of a call are equal but for the labels of the lines, whatever values
the labels are, and whatever the evaluator has. -/
theorem unlabelled_outcome_eq (h : (evaluateRules own rules facts labels).result = .ok o)
    (h' : (evaluateRules own rules facts labels').result = .ok o') :
    o.mapLines Line.unlabelled = o'.mapLines Line.unlabelled := by
  obtain ⟨d, table, added, hd, hf, -, -, rfl⟩ := exists_of_result_evaluateRules h
  obtain ⟨d', table', added', hd', hf', -, -, rfl⟩ := exists_of_result_evaluateRules h'
  cases hd.symm.trans hd'
  cases hf.symm.trans hf'
  simp only [Outcome.mapLines, d.map_unlabelled_lines table (own.merge added) (own.merge added')]

/-- The label of a line is what the labels of the call over those of the evaluator have for its token. -/
theorem text?_eq_label (hl : Labels.ofValue? labels = some added)
    (h : (evaluateRules own rules facts labels).result = .ok o) {l : Line} (hmem : l ∈ o.lines) :
    Labels.text? (own.merge added) l.token = some l.label := by
  obtain ⟨d, table, added', -, -, hl', hdescribes, rfl⟩ := exists_of_result_evaluateRules h
  cases hl.symm.trans hl'
  exact d.text?_of_mem_lines table hdescribes hmem

/-- An evaluation whose labels describe every token fails only with its rules and its facts. -/
theorem exists_evaluateRules_iff (hl : Labels.ofValue? labels = some added)
    (htext : ∀ token, (Labels.text? (own.merge added) token).isSome = true) :
    (∃ o, (evaluateRules own rules facts labels).result = .ok o) ↔
      (∃ d, (Document.read rules).result = .ok d) ∧ ∃ table, FactTable.ofValue? facts = some table := by
  constructor
  · rintro ⟨o, h⟩
    obtain ⟨d, table, -, hd, hf, -⟩ := exists_of_result_evaluateRules h
    exact ⟨⟨d, hd⟩, table, hf⟩
  · rintro ⟨⟨d, hd⟩, table, hf⟩
    rw [result_evaluateRules own hd hf hl, d.evaluate_eq table fun o _ => htext o.condition.token]
    exact ⟨_, rfl⟩

/-- **Calls with labels that describe every token** come to the same but for the labels of the lines:
notices, failure and outcome. -/
theorem unlabelled_evaluateRules_eq {added' : Labels} (hl : Labels.ofValue? labels = some added)
    (hl' : Labels.ofValue? labels' = some added')
    (htext : ∀ token, (Labels.text? (own.merge added) token).isSome = true)
    (htext' : ∀ token, (Labels.text? (own.merge added') token).isSome = true) :
    ((evaluateRules own rules facts labels).andThen fun o => .done (o.mapLines Line.unlabelled)) =
      (evaluateRules own rules facts labels').andThen fun o => .done (o.mapLines Line.unlabelled) := by
  simp only [evaluateRules, suppliedLabels_eq own hl, suppliedLabels_eq own hl', Reported.done_andThen,
    Reported.andThen_assoc]
  have hdocument (d : Document) (table : FactTable) := d.evaluate_unlabelled table
    (fun o _ => htext o.condition.token) fun o _ => htext' o.condition.token
  simp only [hdocument]

end

/-- **Labels only label.**  Let an evaluator's catalogue be at some place, and let there be any events
before each of its calls: more catalogues, catalogues over others, calls of this or any other evaluator.

* Every call is answered as if there had been no events before it.
* The outcomes of two calls with the same rules and facts are equal but for the labels of the lines,
  whatever their labels, and whatever those of the evaluator.
* Let the evaluator's catalogue consist of texts, laid over one another, and let the labels of the calls
  be texts.  Then two such calls are answered alike but for the labels of the lines, failures and notices
  included; a call has an outcome exactly if its rules stand for a document and its facts for a table; and
  a line has the last label of the call whose name has the folding of its token, or else such a
  label of the evaluator, or else, and where that label is empty, the token.
* Supplied labels laid over one another have a catalogue that describes every token, at any time from
  then on, as one catalogue of all their entries would, in order. -/
theorem labels_only_label {s : Catalogues} {engine : Nat} {own : Labels}
    (h : s.made[engine]? = some own) (events events' : List Catalogues.Event) (rules facts : Value) :
    (∀ labels, s.answer events engine rules facts labels = s.answer [] engine rules facts labels) ∧
      (∀ labels labels' o o',
        (s.answer events engine rules facts labels).result = .ok o →
        (s.answer events' engine rules facts labels').result = .ok o' →
          o.mapLines Line.unlabelled = o'.mapLines Line.unlabelled) ∧
      (∀ first rest, Labels.overlaid? (Labels.supplied first) (rest.map Labels.supplied) = some own →
        ∀ call call',
          let answer := s.answer events engine rules facts (Labels.supplied call)
          let answer' := s.answer events' engine rules facts (Labels.supplied call')
          ((answer.andThen fun o => .done (o.mapLines Line.unlabelled)) =
            answer'.andThen fun o => .done (o.mapLines Line.unlabelled)) ∧
          ((∃ o, answer.result = .ok o) ↔ (∃ d, (Document.read rules).result = .ok d) ∧
            ∃ table, FactTable.ofValue? facts = some table) ∧
          ∀ o, answer.result = .ok o → ∀ l ∈ o.lines,
            l.label = Labels.onLine ((first :: rest).flatMap (·.getD [])) (call.getD []) l.token) ∧
      ∀ first rest, (∀ v ∈ first :: rest, (Labels.ofValue? v).isSome = true) →
        ∃ t place, s.createOverlaid first rest = (t, .done place) ∧
          ∀ later token, ((t.after later).get place).describe token =
            Labels.describe (Keyed.ofList ((first :: rest).flatMap Value.members)) token := by
  simp only [Catalogues.answer_eq h]
  refine ⟨fun _ => trivial, fun labels labels' o o' => unlabelled_outcome_eq,
    fun first rest hown call call' => ?_, fun first rest hlabels => ?_⟩
  · obtain ⟨added, hcall⟩ := Option.isSome_iff_exists.mp (Labels.isSome_ofValue?_supplied call)
    obtain ⟨added', hcall'⟩ := Option.isSome_iff_exists.mp (Labels.isSome_ofValue?_supplied call')
    have htext := Labels.text?_merge_texts hown hcall
    have hsome : ∀ token, (Labels.text? (Keyed.merge own added) token).isSome = true := fun token => by
      rw [htext, Option.isSome_some]
    have hsome' : ∀ token, (Labels.text? (Keyed.merge own added') token).isSome = true := fun token => by
      rw [Labels.text?_merge_texts hown hcall', Option.isSome_some]
    refine ⟨unlabelled_evaluateRules_eq hcall hcall' hsome hsome', exists_evaluateRules_iff hcall hsome,
      fun o ho l hl => ?_⟩
    exact Option.some.inj ((text?_eq_label hcall ho hl).symm.trans (htext l.token))
  · obtain ⟨merged, hmerged⟩ := Labels.exists_overlaid hlabels
    obtain ⟨t, place, hmade, hplace⟩ := s.exists_createOverlaid hmerged
    refine ⟨t, place, hmade, fun later token => ?_⟩
    rw [Catalogues.get_after hplace, Labels.describe, Labels.describe, Labels.get?_overlaid hmerged]

namespace Sample

/-- The labels of an evaluator: an age that is described by `Years`. -/
def described : Option (List (String × String)) := some [("Age", "Years"), ("income", "Pay")]

/-- The labels of a call, in which the last spelling of the age has an empty one. -/
def emptied : Option (List (String × String)) := some [("AGE", "How old"), ("age", "")]

/-- The catalogue of the evaluator's labels. -/
def catalogues : Catalogues := ⟨[Keyed.ofList [("Age", .text "Years"), ("income", .text "Pay")]]⟩

/-- The hypotheses of `labels_only_label` are satisfiable: the empty label of a call hides the evaluator's,
for this call and for no later one. -/
theorem labels_only_label_emptied :
    ∃ o o', (catalogues.answer [] 0 rules facts (Labels.supplied emptied)).result = .ok o ∧
      (catalogues.answer [.evaluate 0 rules facts (Labels.supplied emptied)] 0 rules facts .null).result =
        .ok o' ∧
      o.mapLines Line.unlabelled = o'.mapLines Line.unlabelled ∧
      (∀ l ∈ o.lines, l.token = "age" → l.label = "age") ∧
      (∀ l ∈ o.lines, l.token = "INCOME" → l.label = "Pay") ∧
      ∀ l ∈ o'.lines, l.token = "age" → l.label = "Years" := by
  have hown : catalogues.made[0]? =
      some (Keyed.ofList [("Age", .text "Years"), ("income", .text "Pay")]) := rfl
  have hd : (Document.read rules).result = .ok document := rfl
  have hf : FactTable.ofValue? facts = some table := rfl
  have hcalls := labels_only_label hown [] [.evaluate 0 rules facts (Labels.supplied emptied)] rules facts
  have hlater := labels_only_label hown [.evaluate 0 rules facts (Labels.supplied emptied)] [] rules facts
  obtain ⟨-, hreturns, hlabels⟩ := hcalls.2.2.1 described [] rfl emptied none
  obtain ⟨-, hreturns', hlabels'⟩ := hlater.2.2.1 described [] rfl none emptied
  obtain ⟨o, ho⟩ := hreturns.mpr ⟨⟨document, hd⟩, table, hf⟩
  obtain ⟨o', ho'⟩ := hreturns'.mpr ⟨⟨document, hd⟩, table, hf⟩
  refine ⟨o, o', ho, ho', hcalls.2.1 _ _ o o' ho ho', fun l hl ht => ?_, fun l hl ht => ?_,
    fun l hl ht => ?_⟩
  · rw [hlabels o ho l hl, ht]
    decide +kernel
  · rw [hlabels o ho l hl, ht]
    decide +kernel
  · rw [hlabels' o' ho' l hl, ht]
    decide +kernel

end Sample

end Verdict
