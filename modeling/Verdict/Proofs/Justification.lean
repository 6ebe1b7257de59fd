/-
# Lines that justify themselves

A trace line shows the operator of its condition as written, and the literal and the fact as echoes.  A
reader who takes the line at its word evaluates the condition that it shows for the fact that it shows
(`Line.recheck?`), and gets the outcome that the line records: whatever rules and facts were evaluated,
and also where a label has ended the evaluation (`lines_justify_themselves`).

The exception is an equality with a decimal that is echoed as its text, where both sides read as true
and are not one number (`Condition.ToldApart`).  There the line says that they are equal, and the echoes
are not.
-/

import Verdict.Proofs.EchoedComparison
import Verdict.Proofs.Supplied
import Verdict.Proofs.WireRoundTrip

namespace Verdict

/-! ### What a line shows -/

/-- Whether a line is that of a condition: it has its token and its operator, the echoes of its literal
and of its fact, and its outcome. -/
structure Line.Shows (l : Line) (facts : FactTable) (c : Condition) : Prop where
  token : l.token = c.token
  op : l.op = c.operator
  expected : l.expected = c.value.toValue.echo
  actual : l.actual = (facts.lookup c.token).echo
  passed : l.passed = c.holds facts

namespace Traced

variable {α β : Type} {l : Line}

theorem mem_lines_andThen {x : Traced α} {f : α → Traced β} (h : l ∈ (x.andThen f).lines) :
    l ∈ x.lines ∨ ∃ a, x.report.result = .ok a ∧ l ∈ (f a).lines := by
  unfold andThen at h
  split at h
  · next a ha =>
    rcases List.mem_append.mp h with h | h
    · exact Or.inl h
    · exact Or.inr ⟨a, ha, h⟩
  · exact Or.inl h

/-- A step that records no lines leaves those of the next one. -/
theorem mem_lines_ofReported_andThen {r : Reported α} {f : α → Traced β}
    (h : l ∈ ((ofReported r).andThen f).lines) : ∃ a, r.result = .ok a ∧ l ∈ (f a).lines :=
  (mem_lines_andThen h).resolve_left List.not_mem_nil

end Traced

section
variable {s : Scope} {l : Line}

theorem Condition.shows_of_mem_visit {path : String} {c : Condition}
    (h : l ∈ (c.visit s path).lines) : l.Shows s.facts c := by
  unfold visit at h
  split at h
  · next line hline =>
    unfold line? at hline
    split at hline
    · obtain rfl := Option.some.inj hline
      rcases Traced.mem_lines_andThen h with h | ⟨_, -, h⟩
      · obtain rfl := List.mem_singleton.mp h
        constructor <;> dsimp only
      · cases h
    · cases hline
  · cases h

theorem Condition.exists_of_mem_visitAll {path : String} {cs : List Condition}
    (h : l ∈ (visitAll s path cs).lines) : ∃ c ∈ cs, l.Shows s.facts c := by
  induction cs with
  | nil => cases h
  | cons c r ih =>
      rcases Traced.mem_lines_andThen h with h | ⟨_, -, h⟩
      · exact ⟨c, List.mem_cons_self, shows_of_mem_visit h⟩
      · rcases Traced.mem_lines_andThen h with h | ⟨_, -, h⟩
        · obtain ⟨c', hc', hshows⟩ := ih h
          exact ⟨c', List.mem_cons_of_mem _ hc', hshows⟩
        · cases h

mutual

/-- **Every line that a visit leaves is that of a condition,** also where the visit fails. -/
theorem Group.exists_of_mem_visit : ∀ (parent : String) (g : Group),
    l ∈ (g.visit s parent).lines → ∃ o ∈ g.occurrences, l.Shows s.facts o.condition
  | parent, ⟨id, label, operator, conditions, groups⟩, h => by
      rw [visit] at h
      rw [occurrences]
      rcases Traced.mem_lines_andThen h with h | ⟨_, -, h⟩
      · obtain ⟨c, hc, hshows⟩ := Condition.exists_of_mem_visitAll h
        exact ⟨_, List.mem_append_left _ (List.mem_map_of_mem hc), hshows⟩
      · rcases Traced.mem_lines_andThen h with h | ⟨_, -, h⟩
        · obtain ⟨o, ho, hshows⟩ := exists_of_mem_visitAll _ groups h
          exact ⟨_, List.mem_append_right _ (List.mem_map_of_mem ho), hshows⟩
        · rcases Traced.mem_lines_andThen h with h | ⟨_, -, h⟩ <;> cases h

theorem Group.exists_of_mem_visitAll : ∀ (parent : String) (gs : List Group),
    l ∈ (visitAll s parent gs).lines → ∃ o ∈ allOccurrences gs, l.Shows s.facts o.condition
  | _, [], h => by cases h
  | parent, g :: r, h => by
      rw [visitAll] at h
      rw [allOccurrences]
      rcases Traced.mem_lines_andThen h with h | ⟨_, -, h⟩
      · obtain ⟨o, ho, hshows⟩ := exists_of_mem_visit parent g h
        exact ⟨o, List.mem_append_left _ ho, hshows⟩
      · rcases Traced.mem_lines_andThen h with h | ⟨_, -, h⟩
        · obtain ⟨o, ho, hshows⟩ := exists_of_mem_visitAll parent r h
          exact ⟨o, List.mem_append_right _ ho, hshows⟩
        · cases h

end

end

section
variable {facts : FactTable} {labels : Labels} {l : Line}

theorem Group.exists_of_mem_visitTop {index : Nat} {gs : List Group}
    (h : l ∈ (visitTop facts labels index gs).lines) :
    ∃ o ∈ allOccurrences gs, l.Shows facts o.condition := by
  induction gs generalizing index with
  | nil => cases h
  | cons g r ih =>
      rw [allOccurrences]
      rcases Traced.mem_lines_andThen h with h | ⟨_, -, h⟩
      · obtain ⟨o, ho, hshows⟩ := exists_of_mem_visit _ g h
        exact ⟨o, List.mem_append_left _ ho, hshows⟩
      · rcases Traced.mem_lines_andThen h with h | ⟨_, -, h⟩
        · obtain ⟨o, ho, hshows⟩ := ih h
          exact ⟨o, List.mem_append_right _ ho, hshows⟩
        · cases h

theorem Document.lines_of_evaluate {d : Document} {o : Outcome}
    (h : (d.evaluate facts labels).result = .ok o) : o.lines = (d.visit facts labels).lines := by
  obtain ⟨results, -, h⟩ := Reported.exists_of_result_andThen h
  obtain rfl := Except.ok.inj h
  rfl

end

/-! ### Evaluating what a line shows -/

/-- Whether the condition that a line shows holds for the fact that it shows, if the line shows one. -/
def Line.recheck? (l : Line) : Option Bool :=
  (Condition.ofFields? [("token", .text l.token), ("operator", .text l.op),
    ("value", l.expected)]).map (Condition.holds (FactTable.ofFields [(l.token, l.actual)]))

/-- The echo of a literal stands for a literal, with the content of the echo. -/
theorem Literal.exists_shown (l : Literal) :
    ∃ shown, ofValue? l.toValue.echo = some shown ∧
      Content.of shown.toValue = Content.of l.toValue.echo := by
  cases l with
  | decimal d =>
      obtain ⟨hb, shown, hshown⟩ := exists_ofValue?_echo_decimal d
      exact ⟨shown, hshown, content_of_ofValue? hb hshown⟩
  | _ => exact ⟨_, rfl, rfl⟩

/-- Whether a condition is an equality of a value whose echo is apart from that of the literal. -/
def Condition.ToldApart (c : Condition) (v : Value) : Prop :=
  (∃ op, c.comparison? = some op ∧ ¬ op.IsOrdering) ∧ v.EchoesApart c.value.toValue

theorem FactTable.lookup_singleton (token : String) (v : Value) :
    (ofFields [(token, v)]).lookup token = Fact.of v := by
  rw [lookup, ofFields, List.map_singleton, Keyed.get?_ofList]
  simp

theorem Line.recheck?_eq {l : Line} {shown : Literal}
    (h : Literal.ofValue? l.expected = some shown) :
    l.recheck? = some (Condition.accepts ⟨"", l.token, l.op, shown⟩ (Fact.of l.actual)) := by
  have hc : Condition.ofFields? [("token", .text l.token), ("operator", .text l.op),
      ("value", l.expected)] = some ⟨"", l.token, l.op, shown⟩ := by
    simp [Condition.ofFields?, Value.memberText?, Value.lookup?, Value.scalarText?, Value.asText?, h]
  rw [recheck?, hc, Option.map_some, Condition.holds, FactTable.lookup_singleton]

/-- **A line justifies itself** unless its condition is told apart, and refutes itself if it is. -/
theorem Line.Shows.recheck? {l : Line} {facts : FactTable} {c : Condition} (h : l.Shows facts c)
    {v : Value} (hv : facts.lookup c.token = Fact.of v) (hvr : v.InRange) (hcr : c.value.InRange) :
    (¬ c.ToldApart v → l.recheck? = some l.passed) ∧
      (c.ToldApart v → l.recheck? = some (!l.passed)) := by
  obtain ⟨shown, hshown, hcontent⟩ := c.value.exists_shown
  have hactual : l.actual = v.echo := by
    rw [h.actual, hv]
    rfl
  have hrecheck := l.recheck?_eq (h.expected ▸ hshown)
  have hpassed : l.passed = c.accepts (Fact.of v) := by rw [h.passed, Condition.holds, hv]
  rw [hrecheck, hpassed, Condition.accepts, Condition.accepts, Condition.comparison?, h.op]
  cases hop : c.comparison? with
  | none =>
      have hnone : Comparison.ofText? c.operator = none := hop
      rw [hnone]
      refine ⟨fun _ => rfl, ?_⟩
      rintro ⟨⟨op, hop', -⟩, -⟩
      cases hop.symm.trans hop'
  | some op =>
      have hsome : Comparison.ofText? c.operator = some op := hop
      rw [hsome]
      dsimp only [Fact.of]
      rw [hcontent, hactual]
      obtain ⟨halike, hapart⟩ := op.holds_echo hvr hcr
      refine ⟨fun hnot => congrArg some (halike ?_), ?_⟩
      · by_contra hboth
        rw [not_or, not_not] at hboth
        exact hnot ⟨⟨op, hop, hboth.1⟩, hboth.2⟩
      · rintro ⟨⟨op', hop', hordering⟩, htold⟩
        obtain rfl := Option.some.inj (hop.symm.trans hop')
        exact congrArg some (hapart hordering htold)

/-- Whether evaluations leave a line in their trace: in that of an outcome, or beside a verdict, which
need not have come about. -/
def Line.LeftBy (l : Line) (own : Labels) (rules facts labels : Value) : Prop :=
  (∃ o, (evaluateRules own rules facts labels).result = .ok o ∧ l ∈ o.lines) ∨
    l ∈ (verdictOfRules rules facts labels).lines

/-- A line that evaluations leave is that of a condition of the document. -/
theorem Line.LeftBy.exists_shows {l : Line} {own : Labels} {rules facts labels : Value}
    (h : l.LeftBy own rules facts labels) :
    ∃ d table, (Document.read rules).result = .ok d ∧ FactTable.ofValue? facts = some table ∧
      ∃ o ∈ Group.allOccurrences d.groups, l.Shows table o.condition := by
  rcases h with ⟨o, ho, hl⟩ | hl
  · obtain ⟨d, hd, ho⟩ := Reported.exists_of_result_andThen ho
    obtain ⟨catalog, -, ho⟩ := Reported.exists_of_result_andThen ho
    obtain ⟨table, ht, ho⟩ := Reported.exists_of_result_andThen ho
    rw [d.lines_of_evaluate ho] at hl
    exact ⟨d, table, hd, ofValue?_of_suppliedFacts ht, Group.exists_of_mem_visitTop hl⟩
  · obtain ⟨d, hd, hl⟩ := Traced.mem_lines_ofReported_andThen hl
    obtain ⟨table, ht, hl⟩ := Traced.mem_lines_ofReported_andThen hl
    obtain ⟨catalog, -, hl⟩ := Traced.mem_lines_ofReported_andThen hl
    rcases Traced.mem_lines_andThen hl with hl | ⟨_, -, hl⟩
    · exact ⟨d, table, hd, ofValue?_of_suppliedFacts ht, Group.exists_of_mem_visitTop hl⟩
    · cases hl

/-- **Every trace line justifies itself,** but for equalities that are told apart.  Each line that
evaluations leave, whatever the rules and the facts, is that of a condition of the document.  Evaluating
the condition that it shows, with the echo of the literal, for the fact that it shows, comes out as the
line says; and the other way exactly where the condition is an equality, the literal and the fact read
as true and are not one number, and one of them is a decimal that is echoed as its text. -/
theorem lines_justify_themselves {rules facts : Value} (hrules : rules.InRange)
    (hfacts : facts.InRange) {own : Labels} {labels : Value} {l : Line}
    (hl : l.LeftBy own rules facts labels) :
    ∃ d table, (Document.read rules).result = .ok d ∧ FactTable.ofValue? facts = some table ∧
      ∃ o ∈ Group.allOccurrences d.groups, ∃ v, table.lookup o.condition.token = Fact.of v ∧
        l.Shows table o.condition ∧
        (¬ o.condition.ToldApart v → l.recheck? = some l.passed) ∧
        (o.condition.ToldApart v → l.recheck? = some (!l.passed)) := by
  obtain ⟨d, table, hd, ht, o, ho, hshows⟩ := hl.exists_shows
  obtain ⟨v, hv, hin⟩ := FactTable.exists_lookup ht o.condition.token
  have hliteral : o.condition.value ∈ d.literals := by
    rw [Document.literals, Group.allLiterals_eq_map]
    exact List.mem_map_of_mem ho
  exact ⟨d, table, hd, ht, o, ho, v, hv, hshows,
    hshows.recheck? hv (hin hfacts) (Document.inRange_of_read hrules hd _ hliteral)⟩

namespace Sample

/-- Rules whose only condition asks for a number that is too great for a binary64 number. -/
def huge : Value :=
  .text "\x7b\"groups\":[\x7b\"id\":\"g\",\"conditions\":[
    \x7b\"token\":\"x\",\"operator\":\"=\",\"value\":1e400\x7d]\x7d]\x7d"

/-- A fact under the token of the condition. -/
def factX (v : Value) : Value := .object [("x", v)]

/-- The hypotheses of `lines_justify_themselves` are satisfiable: the literal is echoed as its text,
which is equal to another text for the number, as the number is. -/
theorem lines_justify_themselves_huge : ∃ o,
    (evaluateRules Keyed.empty huge (factX (.text "1e400")) .null).result = .ok o ∧
      o.lines.length = 1 ∧ ∀ l ∈ o.lines, l.recheck? = some l.passed := by
  have hrun : (evaluateRules Keyed.empty huge (factX (.text "1e400")) .null).result?.map
      (·.lines.length) = some 1 := by decide +kernel
  have hread : (Document.read huge).result?.map
      (fun d => (Group.allOccurrences d.groups).map (·.condition.token)) = some ["x"] := by
    decide +kernel
  have hword : Content.wordReading? "1e400" = none := by decide +kernel
  obtain ⟨o, ho, hlength⟩ := Option.map_eq_some_iff.mp hrun
  obtain ⟨d, hd, htokens⟩ := Option.map_eq_some_iff.mp hread
  have ho := Reported.result?_eq_some_iff.mp ho
  refine ⟨o, ho, hlength, fun l hl => ?_⟩
  obtain ⟨_, table, hd', ht, c, hc, v, hv, -, hjustified, -⟩ :=
    lines_justify_themselves (show huge.InRange from .text _)
      (show (factX (.text "1e400")).InRange from .object (by simp)) (Or.inl ⟨o, ho, hl⟩)
  obtain rfl := Except.ok.inj (hd'.symm.trans (Reported.result?_eq_some_iff.mp hd))
  obtain rfl := Option.some.inj ht
  have htoken : c.condition.token ∈ ["x"] := htokens ▸ List.mem_map_of_mem hc
  rw [List.mem_singleton.mp htoken, FactTable.lookup_singleton] at hv
  obtain rfl : v = .text "1e400" := (congrArg Fact.source hv).symm
  -- The fact is no word for a truth value, so that the literal and the fact are not told apart.
  exact hjustified fun htold => by cases hword.symm.trans htold.2.left

/-- **Without the exception the law fails:** a fact that is true is equal to the number, and the line
echoes the number as a text that is not equal to it. -/
theorem recheck_huge : ∃ o,
    (evaluateRules Keyed.empty huge (factX (.bool true)) .null).result = .ok o ∧
      ∃ l ∈ o.lines, l.passed = true ∧ l.recheck? = some false := by
  have hrun : ((evaluateRules Keyed.empty huge (factX (.bool true)) .null).result?.map
      fun o => o.lines.map fun l => (l.passed, l.recheck?)) = some [(true, some false)] := by
    decide +kernel
  obtain ⟨o, ho, hlines⟩ := Option.map_eq_some_iff.mp hrun
  obtain ⟨l, hl, hpair⟩ := List.mem_map.mp (hlines ▸ List.mem_singleton_self (true, some false))
  obtain ⟨hpassed, hrecheck⟩ := Prod.mk.inj hpair
  exact ⟨o, Reported.result?_eq_some_iff.mp ho, l, hl, hpassed, hrecheck⟩

end Sample

end Verdict
