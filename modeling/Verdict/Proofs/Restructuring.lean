/-
# Restructured documents

A document can be written in more than one way.  What a group lists may come in another order, and a
subgroup under the combinator of its group may give way to what it lists itself:

| restructuring | where |
| --- | --- |
| other order | the conditions of a group, its subgroups, the groups of a document |
| splicing | a subgroup under the combinator of its group, empty or not |

Either may happen at any address in the tree (`Document.Restructured`), any number of times.  Results
combine in any order and in any grouping (`Combinator.reduce_perm`, `Combinator.reduce_splice`), so every
group around the change holds as before, and so does the document.  The conditions are the same ones in
another order, and their lines are the same but for where they stand (`restructuring_keeps_meaning`).
-/

import Mathlib.Data.List.Perm.Basic
import Mathlib.Logic.Relation
import Verdict.Proofs.Monotonicity

namespace Verdict

/-! ### Order and grouping of results -/

namespace Combinator

variable (op : Combinator)

/-- Results combine in any order. -/
theorem reduce_perm {bs bs' : List Bool} (h : bs.Perm bs') : op.reduce bs = op.reduce bs' := by
  rw [Bool.eq_iff_iff]
  cases op with
  | all => simp only [reduce_all_eq_true, h.mem_iff]
  | any => simp only [reduce_any_eq_true, h.mem_iff]

/-- **Results combine in any grouping:** what some of them come to stands for them.  In particular what
no results come to may be left out. -/
theorem reduce_splice (bs cs : List Bool) : op.reduce (op.reduce bs :: cs) = op.reduce (bs ++ cs) := by
  cases op <;> simp [reduce]

end Combinator

/-- Of two lists in two parts each, one after the other, the inner parts may come before the outer ones. -/
theorem perm_append_of_parts {α : Type} {xs ys as bs cs ds : List α} (hx : xs.Perm (as ++ bs))
    (hy : ys.Perm (cs ++ ds)) : (xs ++ ys).Perm ((bs ++ cs) ++ (as ++ ds)) := by
  refine (hx.append hy).trans ?_
  have h := List.perm_append_comm_assoc as (bs ++ cs) ds
  simpa only [List.append_assoc] using h

namespace Group

/-! ### Groups that mean the same -/

theorem map_condition_allOccurrences (gs : List Group) :
    (allOccurrences gs).map (·.condition) = gs.flatMap allConditions := by
  induction gs with
  | nil => rfl
  | cons g r ih => rw [allOccurrences, List.map_append, ih, List.flatMap_cons, allConditions]

theorem allConditions_eq (g : Group) :
    g.allConditions = g.conditions ++ g.groups.flatMap allConditions := by
  obtain ⟨id, label, operator, conditions, groups⟩ := g
  rw [allConditions_mk, map_condition_allOccurrences]

/-- Whether two groups have the same name, hold for the same facts, and have the same conditions in
whatever order. -/
structure Equivalent (g g' : Group) : Prop where
  id : g'.id = g.id
  label : g'.label = g.label
  holds : ∀ facts, g'.holds facts = g.holds facts
  conditions : g'.allConditions.Perm g.allConditions

theorem Equivalent.rfl {g : Group} : g.Equivalent g := ⟨Eq.refl _, Eq.refl _, fun _ => Eq.refl _, .refl _⟩

section
variable {gs gs' : List Group} (h : List.Forall₂ Equivalent gs gs')
include h

/-- What equivalent groups have in common, lists of them have one by one. -/
theorem map_eq_of_forall₂ {α : Type} {f : Group → α} (hf : ∀ g g', Equivalent g g' → f g' = f g) :
    gs'.map f = gs.map f := by
  induction h with
  | nil => rfl
  | cons hg _ ih => rw [List.map_cons, List.map_cons, hf _ _ hg, ih]

theorem perm_allConditions_of_forall₂ :
    (gs'.flatMap allConditions).Perm (gs.flatMap allConditions) := by
  induction h with
  | nil => exact .refl _
  | cons hg _ ih =>
      rw [List.flatMap_cons, List.flatMap_cons]
      exact hg.conditions.append ih

end

/-- **A group is equivalent to the one with equivalent subgroups.** -/
theorem equivalent_of_forall₂ (g : Group) {groups : List Group}
    (h : List.Forall₂ Equivalent g.groups groups) : g.Equivalent { g with groups := groups } := by
  refine ⟨rfl, rfl, fun facts => ?_, ?_⟩
  · rw [holds_eq_reduce, holds_eq_reduce, map_eq_of_forall₂ h fun _ _ hg => hg.holds facts]
  · rw [allConditions_eq, allConditions_eq]
    exact (perm_allConditions_of_forall₂ h).append_left _

/-! ### Restructuring a group -/

/-- Whether a group is another one restructured: with its conditions or its subgroups in another order, or
with a subgroup under its own combinator replaced by the conditions and the subgroups of that, wherever
they are put among the others. -/
inductive Restructured (g : Group) : Group → Prop
  | conditions {conditions : List Condition} (h : g.conditions.Perm conditions) :
      Restructured g { g with conditions := conditions }
  | groups {groups : List Group} (h : g.groups.Perm groups) : Restructured g { g with groups := groups }
  | splice {sub : Group} {others groups : List Group} {conditions : List Condition}
      (hsub : g.groups.Perm (sub :: others)) (hop : sub.operator = g.operator)
      (hconditions : conditions.Perm (g.conditions ++ sub.conditions))
      (hgroups : groups.Perm (sub.groups ++ others)) :
      Restructured g { g with conditions := conditions, groups := groups }

variable {g g' old new : Group}

/-- **A group that is restructured is equivalent.** -/
theorem Restructured.equivalent (h : g.Restructured g') : g.Equivalent g' := by
  cases h with
  | conditions h =>
      refine ⟨rfl, rfl, fun facts => ?_, ?_⟩
      · rw [holds_eq_reduce, holds_eq_reduce]
        exact (g.operator.reduce_perm ((h.map _).append_right _)).symm
      · rw [allConditions_eq, allConditions_eq]
        exact (h.append_right _).symm
  | groups h =>
      refine ⟨rfl, rfl, fun facts => ?_, ?_⟩
      · rw [holds_eq_reduce, holds_eq_reduce]
        exact (g.operator.reduce_perm ((h.map _).append_left _)).symm
      · rw [allConditions_eq, allConditions_eq]
        exact ((h.flatMap_right _).append_left _).symm
  | @splice sub others groups conditions hsub hop hconditions hgroups =>
      refine ⟨rfl, rfl, fun facts => ?_, ?_⟩
      · have hafter := perm_append_of_parts
          (List.map_append ▸ hconditions.map (Condition.holds facts))
          (List.map_append ▸ hgroups.map (holds facts))
        have hbefore : (g.conditions.map (Condition.holds facts) ++ g.groups.map (holds facts)).Perm
            (sub.holds facts ::
              (g.conditions.map (Condition.holds facts) ++ others.map (holds facts))) :=
          ((hsub.map _).append_left _).trans List.perm_middle
        rw [holds_eq_reduce, holds_eq_reduce facts g, g.operator.reduce_perm hbefore,
          g.operator.reduce_perm hafter, ← Combinator.reduce_splice, holds_eq_reduce facts sub, hop]
      · have hafter := perm_append_of_parts hconditions
          (List.flatMap_append ▸ hgroups.flatMap_right allConditions)
        have hbefore : (g.conditions ++ g.groups.flatMap allConditions).Perm
            (sub.allConditions ++ (g.conditions ++ others.flatMap allConditions)) :=
          ((hsub.flatMap_right _).append_left _).trans (List.perm_append_comm_assoc ..)
        rw [allConditions_eq, allConditions_eq g]
        rw [allConditions_eq sub] at hbefore
        exact hafter.trans hbefore.symm

/-! ### Changes at an address -/

/-- The group at an address below a group: each position in it is that of a subgroup of the one before. -/
def at? : Group → List Nat → Option Group
  | g, [] => some g
  | g, i :: address => (g.groups[i]?).bind fun sub => sub.at? address

/-- A group with the one at an address below it replaced. -/
def replaceAt : Group → List Nat → Group → Group
  | _, [], new => new
  | g, i :: address, new =>
    { g with groups := g.groups.modify i fun sub => sub.replaceAt address new }

/-- A list in which one group is replaced by an equivalent one. -/
theorem forall₂_modify {gs : List Group} {i : Nat} {f : Group → Group} (hg : gs[i]? = some g)
    (h : g.Equivalent (f g)) : List.Forall₂ Equivalent gs (gs.modify i f) := by
  have hrefl (gs : List Group) : List.Forall₂ Equivalent gs gs := List.forall₂_same.mpr fun _ _ => .rfl
  induction gs generalizing i with
  | nil => cases hg
  | cons first r ih =>
      cases i with
      | zero =>
          obtain rfl := Option.some.inj hg
          exact .cons h (hrefl r)
      | succ i => exact .cons .rfl (ih hg)

/-- **A group is equivalent to the one in which another is replaced by an equivalent one,** at any
depth. -/
theorem equivalent_replaceAt {address : List Nat} (hold : g.at? address = some old)
    (h : old.Equivalent new) : g.Equivalent (g.replaceAt address new) := by
  induction address generalizing g with
  | nil =>
      obtain rfl := Option.some.inj hold
      exact h
  | cons i address ih =>
      obtain ⟨sub, hsub, hold⟩ := Option.bind_eq_some_iff.mp hold
      exact g.equivalent_of_forall₂ (forall₂_modify hsub (ih hold))

theorem at?_append (g : Group) (above below : List Nat) :
    g.at? (above ++ below) = (g.at? above).bind fun sub => sub.at? below := by
  induction above generalizing g with
  | nil => rfl
  | cons i above ih =>
      rw [List.cons_append, at?, at?, Option.bind_assoc]
      exact congrArg _ (funext ih)

/-- Above the address of a change the group is replaced by the one with the change in it. -/
theorem at?_replaceAt_append (g : Group) (above below : List Nat) (new : Group) :
    (g.replaceAt (above ++ below) new).at? above =
      (g.at? above).map fun sub => sub.replaceAt below new := by
  induction above generalizing g with
  | nil => rfl
  | cons i above ih =>
      rw [List.cons_append, replaceAt, at?, at?, List.getElem?_modify_eq, Option.map_bind]
      cases g.groups[i]? with
      | none => rfl
      | some sub => exact ih sub

end Group

/-! ### Restructuring a document -/

/-- A line without the place of its condition: the path to it and the position of its top-level group. -/
def Line.detached (l : Line) : Line := { l with path := "", groupIndex := none }

/-- The lines of a group are those of its conditions, but for where they stand. -/
theorem Group.map_detached_lines (facts : FactTable) (labels : Labels) (index : Option Int)
    (parent : String) (g : Group) :
    (g.lines facts labels index parent).map Line.detached =
      g.allConditions.map fun c => (Occurrence.line facts labels none "" ⟨[], c⟩).detached := by
  rw [lines, allConditions, List.map_map, List.map_map]
  rfl

namespace Document

theorem map_detached_lines (d : Document) (facts : FactTable) (labels : Labels) :
    (d.lines facts labels).map Line.detached =
      d.conditions.map fun c => (Occurrence.line facts labels none "" ⟨[], c⟩).detached := by
  rw [conditions, List.map_map]
  exact d.map_lines facts fun _ _ => rfl

/-- The group at an address: its first position is that of a top-level group. -/
def at? (d : Document) : List Nat → Option Group
  | [] => none
  | i :: address => (d.groups[i]?).bind fun g => g.at? address

/-- A document with the group at an address replaced. -/
def replaceAt (d : Document) (new : Group) : List Nat → Document
  | [] => d
  | i :: address => { d with groups := d.groups.modify i fun g => g.replaceAt address new }

/-- Whether a document is another one with its groups in another order, or with a group restructured at
any address. -/
inductive Restructured (d : Document) : Document → Prop
  | order {groups : List Group} (h : d.groups.Perm groups) : Restructured d { d with groups := groups }
  | inside {address : List Nat} {old new : Group} (hold : d.at? address = some old)
      (h : old.Restructured new) : Restructured d (d.replaceAt new address)

/-- Whether two documents hold for the same facts, and have the same conditions and the same summaries in
whatever order. -/
structure Equivalent (d d' : Document) : Prop where
  holds : ∀ facts, d'.holds facts = d.holds facts
  conditions : d'.conditions.Perm d.conditions
  summaries : ∀ facts, (d'.groupSummaries facts).Perm (d.groupSummaries facts)

variable {d d' d'' : Document}

theorem Equivalent.rfl : d.Equivalent d := ⟨fun _ => Eq.refl _, .refl _, fun _ => .refl _⟩

theorem Equivalent.trans (h : d.Equivalent d') (h' : d'.Equivalent d'') : d.Equivalent d'' where
  holds facts := (h'.holds facts).trans (h.holds facts)
  conditions := h'.conditions.trans h.conditions
  summaries facts := (h'.summaries facts).trans (h.summaries facts)

theorem conditions_eq (d : Document) : d.conditions = d.groups.flatMap Group.allConditions :=
  Group.map_condition_allOccurrences d.groups

/-- A document is equivalent to the one with equivalent groups. -/
theorem equivalent_of_forall₂ (d : Document) {groups : List Group}
    (h : List.Forall₂ Group.Equivalent d.groups groups) : d.Equivalent { d with groups := groups } := by
  refine ⟨fun facts => ?_, ?_, fun facts => ?_⟩
  · rw [holds_eq_reduce, holds_eq_reduce, Group.map_eq_of_forall₂ h fun _ _ hg => hg.holds facts]
  · rw [conditions_eq, conditions_eq]
    exact Group.perm_allConditions_of_forall₂ h
  · refine .of_eq (Group.map_eq_of_forall₂ h fun g g' hg => ?_)
    rw [hg.id, hg.label, hg.holds]

/-- **A document that is restructured is equivalent,** wherever that is. -/
theorem Restructured.equivalent (h : d.Restructured d') : d.Equivalent d' := by
  cases h with
  | order h =>
      refine ⟨fun facts => ?_, ?_, fun facts => (h.map _).symm⟩
      · rw [holds_eq_reduce, holds_eq_reduce]
        exact (d.operator.reduce_perm (h.map _)).symm
      · rw [conditions_eq, conditions_eq]
        exact (h.flatMap_right _).symm
  | @inside address old new hold h =>
      cases address with
      | nil => exact .rfl
      | cons i address =>
          obtain ⟨g, hg, hold⟩ := Option.bind_eq_some_iff.mp hold
          exact d.equivalent_of_forall₂
            (Group.forall₂_modify hg (Group.equivalent_replaceAt hold h.equivalent))

/-- So is one that is restructured any number of times. -/
theorem equivalent_of_reflTransGen (h : Relation.ReflTransGen Restructured d d') : d.Equivalent d' := by
  induction h with
  | refl => exact .rfl
  | tail _ hstep ih => exact ih.trans hstep.equivalent

/-- **Every group around a change is equivalent to what stands in its place after it.** -/
theorem exists_at?_replaceAt {address above : List Nat} {g old new : Group}
    (hold : d.at? address = some old) (h : old.Equivalent new) (habove : above <+: address)
    (hg : d.at? above = some g) :
    ∃ g', (d.replaceAt new address).at? above = some g' ∧ g.Equivalent g' := by
  obtain ⟨below, rfl⟩ := habove
  cases above with
  | nil => cases hg
  | cons i above =>
      obtain ⟨top, htop, hg⟩ := Option.bind_eq_some_iff.mp hg
      have hbelow : g.at? below = some old := by
        rw [List.cons_append, at?, htop, Option.bind_some, Group.at?_append, hg] at hold
        exact hold
      refine ⟨g.replaceAt below new, ?_, Group.equivalent_replaceAt hbelow h⟩
      rw [List.cons_append, replaceAt, at?, List.getElem?_modify_eq, htop]
      exact (Group.at?_replaceAt_append top above below new).trans (by rw [hg]; rfl)

end Document

/-- **Restructuring keeps the meaning.**  Let facts be supplied, and labels that are texts.

* Let a document be restructured any number of times, each time anywhere in the tree: with conditions,
  subgroups or top-level groups in another order, or with a subgroup under the combinator of its group
  spliced into the group.  Then the verdicts are the same, with the engine and by themselves; the
  summaries are the same but for their order; and so are the lines but for their order, their paths and
  the positions of their top-level groups.
* Let one group be restructured, at any address.  At that address, and at every address above it, the
  group of the new document holds exactly if that of the old one does, below any path, and leaves the
  same lines but for their order and their paths. -/
theorem restructuring_keeps_meaning {own added : Labels} {facts labels : Value} {table : FactTable}
    (hf : FactTable.ofValue? facts = some table) (hl : Labels.ofValue? labels = some added)
    (hown : own.AreTexts) (ha : added.AreTexts) :
    (∀ d d' : Document, Relation.ReflTransGen Document.Restructured d d' →
      ∃ o o', (d.evaluateSupplied own facts labels).result = .ok o ∧
        (d'.evaluateSupplied own facts labels).result = .ok o' ∧
        (∃ ns, d.verdict table (own.merge added) = ⟨o.lines, ns, .ok o.overall⟩) ∧
        (∃ ns, d'.verdict table (own.merge added) = ⟨o'.lines, ns, .ok o'.overall⟩) ∧
        o'.overall = o.overall ∧ o'.summaries.Perm o.summaries ∧
        (o'.lines.map Line.detached).Perm (o.lines.map Line.detached)) ∧
      ∀ (d : Document) (address : List Nat) (old new : Group),
        d.at? address = some old → old.Restructured new →
        ∀ above, above <+: address → ∀ g, d.at? above = some g →
          ∃ g', (d.replaceAt new address).at? above = some g' ∧
            ∀ path position index, Line.index? position = some index →
              let before := verdictOfGroup g path position facts labels
              let after := verdictOfGroup g' path position facts labels
              before.report.result = .ok (g.holds table) ∧ after.report.result = .ok (g.holds table) ∧
                (after.lines.map Line.detached).Perm (before.lines.map Line.detached) := by
  have hdescribes (d : Document) := (hown.merge ha).describes (Group.allOccurrences d.groups)
  constructor
  · intro d d' h
    have hequivalent := Document.equivalent_of_reflTransGen h
    refine ⟨_, _, d.result_evaluateSupplied hown hf hl ha, d'.result_evaluateSupplied hown hf hl ha,
      ⟨_, d.verdict_eq table (hdescribes d)⟩, ⟨_, d'.verdict_eq table (hdescribes d')⟩,
      hequivalent.holds table, hequivalent.summaries table, ?_⟩
    rw [d.map_detached_lines, d'.map_detached_lines]
    exact hequivalent.conditions.map _
  · intro d address old new hold h above habove g hg
    obtain ⟨g', hg', hequivalent⟩ :=
      Document.exists_at?_replaceAt hold h.equivalent habove hg
    refine ⟨g', hg', fun path position index hi => ?_⟩
    intro before after
    have hbefore : before = _ := verdictOfGroup_eq g path hi hf hl ha
    have hafter : after = _ := verdictOfGroup_eq g' path hi hf hl ha
    rw [hbefore, hafter, hequivalent.holds]
    refine ⟨rfl, rfl, ?_⟩
    rw [Group.map_detached_lines, Group.map_detached_lines]
    exact hequivalent.conditions.map _

namespace Sample

/-- Any of two groups: one whose subgroup under `AND` has a subgroup under `AND` of its own, with an empty
one in that, and one with two conditions. -/
def layered : Document :=
  ⟨.any,
    [⟨"home", "Home", .any, [⟨"", "age", "<", .integer 18⟩],
        [⟨"proof", "proof", .all, [⟨"", "Resident", "=", .boolean true⟩],
          [⟨"pay", "pay", .all, [⟨"", "INCOME", ">", .integer 1000⟩], [⟨"", "", .all, [], []⟩]⟩]⟩]⟩,
      ⟨"income", "Income", .all, [⟨"", "INCOME", ">=", .integer 2500⟩,
        ⟨"", "Resident", "=", .boolean true⟩], []⟩]⟩

/-- The subgroup under `AND`, with what its own subgroup lists in place of that. -/
def spliced : Group :=
  ⟨"proof", "proof", .all, [⟨"", "INCOME", ">", .integer 1000⟩, ⟨"", "Resident", "=", .boolean true⟩],
    [⟨"", "", .all, [], []⟩]⟩

/-- The document with that group, and with its groups the other way round. -/
def flattened : Document :=
  ⟨.any,
    [⟨"income", "Income", .all, [⟨"", "INCOME", ">=", .integer 2500⟩,
        ⟨"", "Resident", "=", .boolean true⟩], []⟩,
      ⟨"home", "Home", .any, [⟨"", "age", "<", .integer 18⟩], [spliced]⟩]⟩

theorem restructured_spliced :
    ∃ old, layered.at? [0, 0] = some old ∧ old.Restructured spliced :=
  ⟨_, rfl, .splice (.refl _) rfl (.swap _ _ _) (.refl _)⟩

theorem restructured_flattened : Relation.ReflTransGen Document.Restructured layered flattened := by
  obtain ⟨old, hold, h⟩ := restructured_spliced
  exact .tail (.single (.inside hold h)) (.order (.swap _ _ _))

/-- The hypotheses of `restructuring_keeps_meaning` are satisfiable: the flattened document holds as the
layered one does, and so does the group around the change. -/
theorem restructuring_keeps_meaning_flattened :
    ∃ o o', (layered.evaluateSupplied Keyed.empty facts labels).result = .ok o ∧
      (flattened.evaluateSupplied Keyed.empty facts labels).result = .ok o' ∧
      o.overall = true ∧ o'.overall = true ∧
      (o'.lines.map Line.detached).Perm (o.lines.map Line.detached) ∧
      ∃ home, (layered.replaceAt spliced [0, 0]).at? [0] = some home ∧
        (verdictOfGroup home "ROOT" .null facts labels).report.result = .ok true := by
  have hf : FactTable.ofValue? facts = some table := rfl
  have hl : Labels.ofValue? labels = some catalog := rfl
  obtain ⟨hdocuments, hgroups⟩ :=
    restructuring_keeps_meaning hf hl Labels.areTexts_empty areTexts_catalog
  obtain ⟨o, o', ho, ho', ⟨ns, hv⟩, -, hoverall, -, hlines⟩ :=
    hdocuments layered flattened restructured_flattened
  have htrue : (layered.verdict table (Keyed.merge Keyed.empty catalog)).report.result = .ok true := by
    decide +kernel
  have ho_true : o.overall = true := Except.ok.inj ((congrArg (·.report.result) hv).symm.trans htrue)
  obtain ⟨old, hold, h⟩ := restructured_spliced
  obtain ⟨home, hhome, hsame⟩ := hgroups layered [0, 0] old spliced hold h [0] ⟨[0], rfl⟩ _ rfl
  obtain ⟨-, hafter, -⟩ := hsame "ROOT" .null none rfl
  refine ⟨o, o', ho, ho', ho_true, hoverall.trans ho_true, hlines, home, hhome, hafter.trans ?_⟩
  exact congrArg Except.ok (by decide +kernel)

end Sample

end Verdict
