/-
# Only the facts that are mentioned

A document looks up the tokens of its conditions and nothing else, by their case foldings.  So two
tables that agree on these tokens cannot be told apart by it, whatever else they hold, and a document
whose tokens are spelled in other cases cannot be told from it, but by the spellings that its lines
repeat (`evaluations_of_respelled`).

A line repeats the token, and as its label too where the catalogue has no label for the token
(`Line.folded` makes both small).
-/

import Verdict.Proofs.LastWritten
import Verdict.Proofs.Matching

namespace Verdict

theorem Keyed.get?_of_fold_eq {α : Type} (t : Keyed α) {n m : String}
    (h : Text.fold n = Text.fold m) : t.get? n = t.get? m := by
  rw [get?, get?, find?, find?, h]

theorem FactTable.lookup_of_fold_eq (t : FactTable) {n m : String}
    (h : Text.fold n = Text.fold m) : t.lookup n = t.lookup m := by
  rw [lookup, lookup, t.get?_of_fold_eq h]

/-! ### Tokens that describe themselves -/

namespace Labels

/-- Whether a catalogue has a label for a token. -/
def hasLabel (labels : Labels) (token : String) : Bool := (labels.get? token).any Value.isGiven

theorem hasLabel_of_fold_eq (labels : Labels) {n m : String} (h : Text.fold n = Text.fold m) :
    labels.hasLabel n = labels.hasLabel m := by
  rw [hasLabel, hasLabel, labels.get?_of_fold_eq h]

theorem text?_of_hasLabel {labels : Labels} {n m : String} (h : Text.fold n = Text.fold m)
    (hl : labels.hasLabel m = true) : labels.text? n = labels.text? m := by
  unfold hasLabel at hl
  rw [text?, text?, describe, describe, labels.get?_of_fold_eq h]
  cases hv : labels.get? m with
  | none =>
      rw [hv] at hl
      cases hl
  | some v =>
      rw [hv] at hl
      have hgiven : v.isGiven = true := hl
      simp only [hgiven, if_true]

/-- A token without a label is described by itself. -/
theorem text?_of_not_hasLabel {labels : Labels} {token : String}
    (h : labels.hasLabel token = false) : labels.text? token = some token := by
  unfold hasLabel at h
  rw [text?, describe]
  cases hv : labels.get? token with
  | none => rfl
  | some v =>
      rw [hv] at h
      have hgiven : v.isGiven = false := h
      simp only [hgiven]
      rfl

end Labels

/-- A line with its token folded, and with it a label that is the token itself. -/
def Line.folded (labels : Labels) (l : Line) : Line :=
  { l with
    token := Text.fold l.token
    label := if labels.hasLabel l.token then l.label else Text.fold l.label }

/-! ### Conditions with other spellings of their tokens -/

/-- Whether a condition is another but for the case of its token. -/
def Condition.Respelled (c c' : Condition) : Prop :=
  c'.id = c.id ∧ Text.fold c'.token = Text.fold c.token ∧ c'.operator = c.operator ∧
    c'.value = c.value

/-- Whether a document is another but for the cases of its tokens. -/
def Document.Respelled (d d' : Document) : Prop := d.Matches Group.keepLabel Condition.Respelled d'

/-- The tokens of a document. -/
def Document.tokens (d : Document) : List String :=
  (Group.allOccurrences d.groups).map (·.condition.token)

section
variable {facts facts' : FactTable} {c c' : Condition}

theorem Condition.lookup_of_respelled (h : c.Respelled c')
    (hf : facts.lookup c.token = facts'.lookup c.token) :
    facts'.lookup c'.token = facts.lookup c.token := by
  rw [facts'.lookup_of_fold_eq h.2.1, hf]

theorem Condition.holds_of_respelled (h : c.Respelled c')
    (hf : facts.lookup c.token = facts'.lookup c.token) : c.holds facts = c'.holds facts' := by
  have hlookup := lookup_of_respelled h hf
  obtain ⟨-, -, hoperator, hvalue⟩ := h
  unfold holds accepts comparison?
  rw [hlookup, hoperator, hvalue]

/-- **A condition with another spelling of its token** leaves the same result and the same line but for
the spelling. -/
theorem Condition.lookAlike_of_respelled (labels : Labels) (h : c.Respelled c')
    (hf : facts.lookup c.token = facts'.lookup c.token) :
    c.LookAlike (Line.folded labels) labels facts facts' c' := by
  refine lookAlike_of_lines (fun _ => rfl) fun index path => ?_
  have hholds := holds_of_respelled h hf
  have hlookup := lookup_of_respelled h hf
  obtain ⟨-, htoken, hoperator, hvalue⟩ := h
  have hsame := labels.hasLabel_of_fold_eq htoken
  unfold line?
  dsimp only
  rw [hlookup, hholds, hoperator, hvalue]
  cases Line.index? index with
  | none => cases labels.text? c.token <;> cases labels.text? c'.token <;> rfl
  | some position =>
      -- Both tokens have the same label, or each of them is its own.
      cases hl : labels.hasLabel c.token with
      | true =>
          rw [Labels.text?_of_hasLabel htoken hl]
          cases labels.text? c.token with
          | none => rfl
          | some label => simp only [Option.map_some, Line.folded, hsame, hl, htoken, if_true]
      | false =>
          rw [Labels.text?_of_not_hasLabel hl, Labels.text?_of_not_hasLabel (hsame.trans hl)]
          simp only [Option.map_some, Line.folded, hsame, hl, htoken, Bool.false_eq_true, if_false]

end

/-! ### Documents with other spellings of their tokens -/

/-- Where the tables agree on the tokens of a document, every condition stands for one that is looked up
alike. -/
theorem Document.matches_of_respelled {d d' : Document} {facts facts' : FactTable}
    (hd : d.Respelled d') (hf : ∀ token ∈ d.tokens, facts.lookup token = facts'.lookup token) :
    d.Matches Group.keepLabel
      (fun c c' => c.Respelled c' ∧ facts.lookup c.token = facts'.lookup c.token) d' :=
  ⟨hd.1, Group.AllMatch.imp d.groups d'.groups hd.2 fun _ ho _ hc =>
    ⟨hc, hf _ (List.mem_map_of_mem ho)⟩⟩

/-- **Only the facts that are mentioned matter, and their spelling does not.**  Let a document be another
but for the cases of its tokens, and let two tables give the same fact for each token of the document,
whatever else they hold.  Then, whatever the labels,

* the documents hold alike, and have the same summaries;
* evaluations end alike, with the same notices, and so do verdicts onto a trace; the lines that they
  leave are the same one by one, but for the spelling of the token, and of a label that is the token
  for want of another. -/
theorem evaluations_of_respelled {d d' : Document} {facts facts' : FactTable} (hd : d.Respelled d')
    (hf : ∀ token ∈ d.tokens, facts.lookup token = facts'.lookup token) :
    d.holds facts = d'.holds facts' ∧ d.summaries facts = d'.summaries facts' ∧
      (∀ labels,
        ((d.evaluate facts labels).andThen fun o => .done (o.mapLines (Line.folded labels))) =
          (d'.evaluate facts' labels).andThen fun o => .done (o.mapLines (Line.folded labels))) ∧
      ∀ labels, (d.verdict facts labels).mapLines (Line.folded labels) =
        (d'.verdict facts' labels).mapLines (Line.folded labels) := by
  have hmatch := Document.matches_of_respelled hd hf
  have look (labels : Labels) (c c' : Condition)
      (h : c.Respelled c' ∧ facts.lookup c.token = facts'.lookup c.token) :
      c.LookAlike (Line.folded labels) labels facts facts' c' :=
    Condition.lookAlike_of_respelled labels h.1 h.2
  refine ⟨?_, ?_, ?_, ?_⟩
  · exact Document.holds_of_matches (fun _ _ h => Condition.holds_of_respelled h.1 h.2) hmatch
  · exact Document.summaries_of_matches (look Keyed.empty) hmatch rfl
  · exact fun labels => Document.mapLines_evaluate (look labels) hmatch
  · exact fun labels => Document.mapLines_verdict (look labels) hmatch

namespace Sample

/-- A condition on a street. -/
def street (token : String) : Document :=
  ⟨.all, [⟨"address", "Address", .all, [⟨"", token, "=", .text "Main"⟩], []⟩]⟩

/-- The hypotheses of `evaluations_of_respelled` are satisfiable: the tokens have different lengths but
one folding, and of two facts under it the last one counts. -/
theorem evaluations_of_respelled_street :
    let facts := FactTable.ofFields [("strasse", .text "main")]
    let facts' := FactTable.ofFields
      [("STRASSE", .text "other"), ("age", .int 5), ("Stra\u00dfe", .text "main")]
    (street "Stra\u00dfe").Respelled (street "STRASSE") ∧
      (∀ token ∈ (street "Stra\u00dfe").tokens, facts.lookup token = facts'.lookup token) ∧
      (street "Stra\u00dfe").holds facts = (street "STRASSE").holds facts' ∧
      (street "Stra\u00dfe").holds facts = true := by
  intro facts facts'
  have hfold : Text.fold "STRASSE" = Text.fold "Stra\u00dfe" := by decide +kernel
  have hd : (street "Stra\u00dfe").Respelled (street "STRASSE") := by
    refine ⟨rfl, ?_⟩
    simp [street, Group.AllMatch, Group.Matches, Group.keepLabel, Condition.Respelled, hfold]
  have hf : ∀ token ∈ (street "Stra\u00dfe").tokens, facts.lookup token = facts'.lookup token := by
    intro token htoken
    obtain rfl := List.mem_singleton.mp htoken
    have hsmall : Text.fold "strasse" = Text.fold "Stra\u00dfe" := by decide +kernel
    have hage : Text.fold "age" ≠ Text.fold "Stra\u00dfe" := by decide +kernel
    simp [facts, facts', FactTable.lookup, FactTable.ofFields, Keyed.get?_ofList, hfold, hsmall, hage]
  obtain ⟨hholds, -⟩ := evaluations_of_respelled hd hf
  have htrue : (street "Stra\u00dfe").holds facts = true := by decide +kernel
  exact ⟨hd, hf, hholds, htrue⟩

end Sample

end Verdict
