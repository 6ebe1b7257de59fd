/-
# The notices of an evaluation

Evaluating a document leaves a notice for each group of the tree, and then, depending on what is asked for,
one on the verdict and one on each summary.  A group has a place in the tree, which is told by the groups
around it and the positions of all of them (`Place.IsIn`); the notices come in the order of the places,
what is inside a group before the group and the rest from left to right (`Before`):

| evaluation | after the notices of reading the rules |
| --- | --- |
| `evaluateRules` | those of the groups, the one on the verdict, those of the summaries |
| `summariesOfRules` | those of the groups, those of the summaries |
| `verdictOfRules` | those of the groups |

The lines of the same evaluation come the other way round, a group before what is inside it, and there are
as many of them as the groups have conditions (`notices_mirror_tree`).
-/

import Verdict.Proofs.Supplied

namespace Verdict

/-- The place of a group in a tree: the groups around it, outermost first, with their positions, its own
position, and the group. -/
structure Place where
  above : List (Nat × Group)
  position : Nat
  group : Group

namespace Place

/-- The groups from the top of the tree to a group, with their positions. -/
def steps (p : Place) : List (Nat × Group) := p.above ++ [(p.position, p.group)]

/-- The positions of the groups from the top of the tree to a group. -/
def address (p : Place) : List Nat := p.steps.map Prod.fst

/-- The path to a group below another path. -/
def path (parent : String) (p : Place) : String :=
  pathSeparator.intercalate (parent :: p.steps.map fun s => s.2.displayName)

/-- The notice of the group at a place, below a path. -/
def notice (facts : FactTable) (parent : String) (p : Place) : Notice :=
  .groupEvaluated (p.path parent) p.group.operator (p.group.holds facts)

/-- The same place in a tree that stands inside one more group. -/
def inside (i : Nat) (g : Group) (p : Place) : Place := { p with above := (i, g) :: p.above }

/-- Whether steps lead down from the groups of a list, each to a subgroup of the one before. -/
def Leads : List Group → List (Nat × Group) → Prop
  | _, [] => True
  | groups, (i, g) :: r => groups[i]? = some g ∧ Leads g.groups r

/-- Whether a place is one in the tree of some groups. -/
def IsIn (groups : List Group) (p : Place) : Prop := Leads groups p.steps

end Place

/-- Whether one address comes before another when each group comes after what is inside it: it goes on where
the other ends, or goes further left where they part. -/
def Before : List Nat → List Nat → Prop
  | i :: a, j :: b => i < j ∨ i = j ∧ Before a b
  | _ :: _, [] => True
  | [], _ => False

theorem Before.irrefl (a : List Nat) : ¬ Before a a := by
  induction a with
  | nil => exact id
  | cons i a ih =>
      rintro (h | ⟨-, h⟩)
      · exact Nat.lt_irrefl i h
      · exact ih h

namespace Group

mutual

/-- The places of a group at a position and of all groups in it, which come first. -/
def places (i : Nat) : Group → List Place
  | ⟨id, label, operator, conditions, groups⟩ =>
    (allPlaces 0 groups).map (Place.inside i ⟨id, label, operator, conditions, groups⟩) ++
      [⟨[], i, ⟨id, label, operator, conditions, groups⟩⟩]

/-- The places of the groups of a list, the first of which stands at a given position, and of all groups
in them. -/
def allPlaces (i : Nat) : List Group → List Place
  | [] => []
  | g :: r => g.places i ++ allPlaces (i + 1) r

end

/-! ### The places of a tree -/

theorem places_eq (i : Nat) (g : Group) :
    g.places i = (allPlaces 0 g.groups).map (Place.inside i g) ++ [⟨[], i, g⟩] := by
  obtain ⟨id, label, operator, conditions, groups⟩ := g
  rw [places]

theorem mem_allPlaces {p : Place} {start : Nat} {gs : List Group} :
    p ∈ allPlaces start gs ↔ ∃ (k : Nat) (g : Group), gs[k]? = some g ∧ p ∈ g.places (start + k) := by
  induction gs generalizing start with
  | nil => simp [allPlaces]
  | cons first r ih =>
      rw [allPlaces, List.mem_append, ih]
      constructor
      · rintro (h | ⟨k, g, hg, h⟩)
        · exact ⟨0, first, rfl, h⟩
        · exact ⟨k + 1, g, hg, by rwa [show start + (k + 1) = start + 1 + k by omega]⟩
      · rintro ⟨k, g, hg, h⟩
        rcases k with _ | k
        · obtain rfl := Option.some.inj hg
          exact Or.inl h
        · exact Or.inr ⟨k, g, hg, by rwa [show start + 1 + k = start + (k + 1) by omega]⟩

/-- **The places that are listed are those of the tree.** -/
theorem mem_allPlaces_iff {p : Place} {gs : List Group} : p ∈ allPlaces 0 gs ↔ p.IsIn gs := by
  obtain ⟨above, i, g⟩ := p
  -- The induction goes down from the outermost group, each time into the tree of the next one.
  induction above generalizing gs with
  | nil =>
      rw [mem_allPlaces]
      simp only [Nat.zero_add, places_eq, List.mem_append, List.mem_map, List.mem_singleton]
      constructor
      · rintro ⟨k, g', hg, ⟨q, -, hq⟩ | hp⟩
        · cases hq
        · obtain ⟨-, rfl, rfl⟩ := Place.mk.inj hp
          exact ⟨hg, trivial⟩
      · rintro ⟨hg, -⟩
        exact ⟨i, g, hg, Or.inr rfl⟩
  | cons step r ih =>
      obtain ⟨j, outer⟩ := step
      have hin : (⟨(j, outer) :: r, i, g⟩ : Place).IsIn gs ↔
          gs[j]? = some outer ∧ (⟨r, i, g⟩ : Place).IsIn outer.groups := Iff.rfl
      rw [hin, ← ih, mem_allPlaces]
      simp only [Nat.zero_add, places_eq, List.mem_append, List.mem_map, List.mem_singleton]
      constructor
      · rintro ⟨k, g', hg, ⟨⟨above, i', g''⟩, hq, hp⟩ | hp⟩
        · obtain ⟨habove, rfl, rfl⟩ := Place.mk.inj hp
          obtain ⟨hstep, rfl⟩ := List.cons.inj habove
          obtain ⟨rfl, rfl⟩ := Prod.mk.inj hstep
          exact ⟨hg, hq⟩
        · cases hp
      · rintro ⟨hg, hq⟩
        exact ⟨j, outer, hg, Or.inl ⟨_, hq, rfl⟩⟩

/-- The address of a place in a group starts with the position of the group. -/
theorem address_of_mem_places {p : Place} {i : Nat} {g : Group} (h : p ∈ g.places i) :
    ∃ a, p.address = i :: a := by
  rw [places_eq, List.mem_append, List.mem_map, List.mem_singleton] at h
  rcases h with ⟨q, -, rfl⟩ | rfl
  · exact ⟨q.address, rfl⟩
  · exact ⟨[], rfl⟩

mutual

/-- The places of a group come in the order of their addresses. -/
theorem places_pairwise (i : Nat) :
    ∀ g : Group, (g.places i).Pairwise fun p q => Before p.address q.address
  | ⟨id, label, operator, conditions, groups⟩ => by
      rw [places, List.pairwise_append]
      refine ⟨?_, List.pairwise_singleton _ _, ?_⟩
      · rw [List.pairwise_map]
        refine (allPlaces_pairwise 0 groups).imp ?_
        intro p q h
        exact Or.inr ⟨rfl, h⟩
      · intro p hp q hq
        obtain ⟨inner, hinner, rfl⟩ := List.mem_map.mp hp
        obtain rfl := List.mem_singleton.mp hq
        -- The address of the group itself ends where that of what is inside it goes on.
        refine Or.inr ⟨rfl, ?_⟩
        obtain ⟨k, g, -, hin⟩ := mem_allPlaces.mp hinner
        obtain ⟨a, ha⟩ := address_of_mem_places hin
        show Before inner.address []
        rw [ha]
        exact trivial

/-- **The places of a tree come in the order of their addresses.** -/
theorem allPlaces_pairwise (start : Nat) :
    ∀ gs : List Group, (allPlaces start gs).Pairwise fun p q => Before p.address q.address
  | [] => List.Pairwise.nil
  | g :: r => by
      rw [allPlaces, List.pairwise_append]
      refine ⟨places_pairwise start g, allPlaces_pairwise (start + 1) r, ?_⟩
      intro p hp q hq
      obtain ⟨a, ha⟩ := address_of_mem_places hp
      obtain ⟨k, sibling, -, hq⟩ := mem_allPlaces.mp hq
      obtain ⟨b, hb⟩ := address_of_mem_places hq
      rw [ha, hb]
      exact Or.inl (by omega)

end

/-- No place of a tree is listed twice. -/
theorem allPlaces_nodup (start : Nat) (gs : List Group) : (allPlaces start gs).Nodup := by
  refine (allPlaces_pairwise start gs).imp ?_
  rintro p q h rfl
  exact Before.irrefl _ h

/-! ### Its notices and its conditions -/

/-- Inside one more group a place has the notice that it has below the path of that group. -/
theorem notice_inside (facts : FactTable) (parent : String) (i : Nat) (g : Group) (p : Place) :
    (p.inside i g).notice facts parent = p.notice facts (pathBelow parent g.displayName) := rfl

mutual

theorem notices_eq_map (facts : FactTable) (parent : String) (i : Nat) :
    ∀ g : Group, g.notices facts parent = (g.places i).map (Place.notice facts parent)
  | ⟨id, label, operator, conditions, groups⟩ => by
      rw [notices, places, List.map_append, List.map_map, allNotices_eq_map facts _ 0 groups]
      simp only [Function.comp_def, notice_inside]
      rfl

/-- **The notices of a tree are those of its places, in their order.** -/
theorem allNotices_eq_map (facts : FactTable) (parent : String) (start : Nat) :
    ∀ gs : List Group,
      allNotices facts parent gs = (allPlaces start gs).map (Place.notice facts parent)
  | [] => rfl
  | g :: r => by
      rw [allNotices, allPlaces, List.map_append, notices_eq_map facts parent start g,
        allNotices_eq_map facts parent (start + 1) r]

end

mutual

theorem length_occurrences (i : Nat) :
    ∀ g : Group, g.occurrences.length = ((g.places i).flatMap (·.group.conditions)).length
  | ⟨id, label, operator, conditions, groups⟩ => by
      rw [occurrences, places, List.length_append, List.length_map, List.length_map,
        length_allOccurrences 0 groups, List.flatMap_append, List.flatMap_map,
        List.flatMap_singleton, List.length_append, Nat.add_comm]
      rfl

/-- The conditions of a tree are those of the groups at its places. -/
theorem length_allOccurrences (start : Nat) :
    ∀ gs : List Group,
      (allOccurrences gs).length = ((allPlaces start gs).flatMap (·.group.conditions)).length
  | [] => rfl
  | g :: r => by
      rw [allOccurrences, allPlaces, List.length_append, List.flatMap_append, List.length_append,
        length_occurrences start g, length_allOccurrences (start + 1) r]

end

end Group

namespace Document

variable (d : Document)

/-- The places of the groups of a document, in the order of their notices. -/
def places : List Place := Group.allPlaces 0 d.groups

/-- How many conditions the groups of a document have. -/
def conditionCount : Nat := (d.places.flatMap (·.group.conditions)).length

/-- A document has as many lines as its groups have conditions. -/
theorem length_lines (facts : FactTable) (labels : Labels) :
    (d.lines facts labels).length = d.conditionCount := by
  have h : (d.lines facts labels).map (fun _ => ()) =
      (Group.allOccurrences d.groups).map fun _ => () := d.map_lines facts fun _ _ => rfl
  have hlength := congrArg List.length h
  rwa [List.length_map, List.length_map, Group.length_allOccurrences 0 d.groups] at hlength

end Document

/-- **The notices of an evaluation mirror the tree.**  Whatever rules stand for the document, whatever the
facts, and for labels that are texts, after the notices of reading the rules:

* there is one notice for each place of the tree and no other place, and it has the path to the group
  there, its operator and whether it holds; the places come in post-order;
* `evaluateRules` then has the notice on the verdict, with the number of top-level groups and that of all
  conditions, which is the number of lines, and one on each summary;
* `summariesOfRules` leaves out the notice on the verdict, and `verdictOfRules` those on the summaries as
  well. -/
theorem notices_mirror_tree {own added : Labels} {rules facts labels : Value} {d : Document}
    {table : FactTable} (hown : own.AreTexts) (hd : (Document.read rules).result = .ok d)
    (hf : FactTable.ofValue? facts = some table) (hl : Labels.ofValue? labels = some added)
    (ha : added.AreTexts) :
    let parsed := (Document.read rules).notices
    let evaluated := d.places.map (Place.notice table rootPath)
    let summaries := d.groups.map fun g => (⟨g.id, g.label, g.holds table⟩ : Summary)
    (∀ p, p ∈ d.places ↔ p.IsIn d.groups) ∧
      d.places.Nodup ∧
      (d.places.Pairwise fun p q => Before p.address q.address) ∧
      (∃ o, evaluateRules own rules facts labels =
          ⟨parsed ++ evaluated ++ .evaluated (d.holds table) d.groups.length d.conditionCount ::
            summaries.map Summary.notice, .ok o⟩ ∧
        o.overall = d.holds table ∧ o.lines.length = d.conditionCount ∧ o.summaries = summaries) ∧
      summariesOfRules rules facts =
        ⟨parsed ++ evaluated ++ summaries.map Summary.notice, .ok summaries⟩ ∧
      (verdictOfRules rules facts labels).report = ⟨parsed ++ evaluated, .ok (d.holds table)⟩ := by
  intro parsed evaluated summaries
  have hr : Document.read rules = ⟨parsed, .ok d⟩ := by rw [← hd]
  have hn : Group.allNotices table rootPath d.groups = evaluated :=
    Group.allNotices_eq_map table rootPath 0 d.groups
  let outcome : Outcome := ⟨d.holds table, d.lines table (own.merge added), summaries⟩
  refine ⟨fun p => Group.mem_allPlaces_iff, Group.allPlaces_nodup 0 d.groups,
    Group.allPlaces_pairwise 0 d.groups, ⟨outcome, ?_, rfl, d.length_lines table _, rfl⟩, ?_, ?_⟩
  · have hdescribed := (hown.merge ha).describes (Group.allOccurrences d.groups)
    rw [evaluateRules_eq hown hr hf hl ha, d.evaluate_eq table hdescribed, hn, d.length_lines,
      List.append_assoc]
    rfl
  · rw [summariesOfRules_eq hr hf, d.summaries_eq table, hn, List.append_assoc]
    rfl
  · rw [verdictOfRules_eq hr hf hl ha, hn]

/-- The hypotheses of `notices_mirror_tree` are satisfiable.  In the sample the notice of the inner group
comes before that of the outer one, which holds through it although the condition of the outer group
fails. -/
theorem notices_mirror_tree_sample :
    let evaluated := [.groupEvaluated "ROOT > outer > inner" .all true,
      .groupEvaluated "ROOT > outer" .any true, .groupEvaluated "ROOT > Income" .all false]
    let summaries := [.summarized "outer" "outer" true, .summarized "income" "Income" false]
    (evaluateRules Keyed.empty Sample.rules Sample.facts Sample.labels).notices =
        evaluated ++ .evaluated true 2 3 :: summaries ∧
      (summariesOfRules Sample.rules Sample.facts).notices = evaluated ++ summaries ∧
      (verdictOfRules Sample.rules Sample.facts Sample.labels).report.notices = evaluated := by
  intro evaluated summaries
  have hd : (Document.read Sample.rules).result = .ok Sample.document := rfl
  have hf : FactTable.ofValue? Sample.facts = some Sample.table := rfl
  have hl : Labels.ofValue? Sample.labels = some Sample.catalog := rfl
  obtain ⟨-, -, -, ⟨o, ho, -⟩, hs, hv⟩ :=
    notices_mirror_tree Labels.areTexts_empty hd hf hl Sample.areTexts_catalog
  rw [ho, hs, hv]
  dsimp only
  decide +kernel

end Verdict
