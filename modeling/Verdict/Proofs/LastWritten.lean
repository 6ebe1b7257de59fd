/-
# The last write counts

What is found at a place after writes is what the last of the writes to that place wrote, and what was
found before them if none of them was to that place (`find_foldl_write`).  So a name finds in a table
the last value under a spelling of it, and in tables that are merged what the upper one has for it
(`Keyed.get?_ofList`, `Keyed.get?_merge`).
-/

import Mathlib.Data.List.Forall2
import Verdict.Proofs.Descriptions

namespace Verdict

/-- **Of the writes to a place the last one is found,** whatever the other writes are: `f` finds what
is at the place, `w` writes, `p` says whether a write is to the place, and `g` what it writes there. -/
theorem find_foldl_write {σ α β : Type} {f : σ → Option β} {w : σ → α → σ} {p : α → Prop}
    [DecidablePred p] {g : α → β} (h : ∀ s a, f (w s a) = if p a then some (g a) else f s) (s : σ)
    (as : List α) :
    f (as.foldl w s) = ((as.filter fun a => p a).map g).getLast?.or (f s) := by
  induction as generalizing s with
  | nil => rfl
  | cons a r ih =>
      rw [List.foldl_cons, ih, h]
      by_cases ha : p a
      · rw [if_pos ha, List.filter_cons_of_pos (by simpa using ha), List.map_cons,
          List.getLast?_cons]
        cases ((r.filter fun a => p a).map g).getLast? <;> rfl
      · rw [if_neg ha, List.filter_cons_of_neg (by simpa using ha)]

theorem rel_getLast? {α β : Type} {R : α → β → Prop} {as : List α} {bs : List β}
    (h : List.Forall₂ R as bs) : Option.Rel R as.getLast? bs.getLast? := by
  rw [← List.head?_reverse, ← List.head?_reverse]
  have hr := List.forall₂_reverse_iff.mpr h
  generalize as.reverse = as at hr ⊢
  generalize bs.reverse = bs at hr ⊢
  cases hr with
  | nil => exact .none
  | cons hab _ => exact .some hab

/-- The members of a value: only objects have any. -/
def Value.members : Value → List (String × Value)
  | .object fields => fields
  | _ => []

namespace Keyed

variable {α : Type}

theorem get?_put (t : Keyed α) (name m : String) (value : α) :
    (t.put name value).get? m = if Text.fold name = Text.fold m then some value else t.get? m := by
  rw [get?, find?_put]
  split <;> rfl

/-- A name finds the last value that was put in under a spelling of it. -/
theorem get?_ofList (pairs : List (String × α)) (name : String) :
    (ofList pairs).get? name =
      ((pairs.filter fun p => Text.fold p.1 = Text.fold name).map Prod.snd).getLast? := by
  have h := find_foldl_write (f := fun t : Keyed α => t.get? name)
    (fun t p => get?_put t p.1 name p.2) empty pairs
  exact h.trans Option.or_none

/-- Where the same names are given related values, every name finds related values, or none in either
table. -/
theorem rel_get?_ofList {β : Type} {R : α → β → Prop} {ps : List (String × α)}
    {qs : List (String × β)} (h : List.Forall₂ (fun p q => p.1 = q.1 ∧ R p.2 q.2) ps qs)
    (name : String) : Option.Rel R ((ofList ps).get? name) ((ofList qs).get? name) := by
  rw [get?_ofList, get?_ofList]
  refine rel_getLast? ?_
  rw [List.forall₂_map_left_iff, List.forall₂_map_right_iff]
  refine (List.rel_filter (fun p q hpq => ?_) h).imp fun _ _ => And.right
  beta_reduce
  rw [hpq.1]

/-- Whether no two entries of a table have the same folding. -/
def Distinct (es : List (Entry α)) : Prop := es.Pairwise fun e f => e.key ≠ f.key

theorem Distinct.putEntry {new : Entry α} {es : List (Entry α)} (h : Distinct es) :
    Distinct (putEntry new es) := by
  induction es with
  | nil => exact List.pairwise_singleton ..
  | cons e r ih =>
      obtain ⟨he, hr⟩ := List.pairwise_cons.mp h
      unfold Keyed.putEntry
      split
      · next hk => exact List.pairwise_cons.mpr ⟨fun f hf => hk ▸ he f hf, hr⟩
      · next hk =>
        refine List.pairwise_cons.mpr ⟨fun f hf => ?_, ih hr⟩
        rcases mem_putEntry hf with rfl | hf
        · exact hk
        · exact he f hf

theorem distinct_ofList (pairs : List (String × α)) : Distinct (ofList pairs).entries := by
  have hputAll : ∀ t : Keyed α, Distinct t.entries → Distinct (t.putAll pairs).entries := by
    induction pairs with
    | nil => exact fun _ h => h
    | cons p r ih => exact fun t h => ih (t.put p.1 p.2) h.putEntry
  exact hputAll empty List.Pairwise.nil

/-- Where no two entries have the same folding, the one that is found is the last one as well. -/
theorem entry?_eq_getLast? {es : List (Entry α)} (h : Distinct es) (key : String) :
    entry? key es = (es.filter fun e => e.key = key).getLast? := by
  induction es with
  | nil => rfl
  | cons e r ih =>
      obtain ⟨he, hr⟩ := List.pairwise_cons.mp h
      unfold entry?
      split
      · next hk =>
        have hnone : r.filter (fun f => f.key = key) = [] :=
          List.filter_eq_nil_iff.mpr fun f hf => by
            simpa [← hk] using Ne.symm (he f hf)
        rw [List.filter_cons_of_pos (by simpa using hk), hnone]
        rfl
      · next hk => rw [List.filter_cons_of_neg (by simpa using hk), ih hr]

/-- **A name finds in merged tables** what it finds in the upper one, or else in the lower one. -/
theorem get?_merge (t : Keyed α) {u : Keyed α} (h : Distinct u.entries) (name : String) :
    (t.merge u).get? name = (u.get? name).or (t.get? name) := by
  have hfind := find_foldl_write (f := entry? (Text.fold name)) (g := id)
    (fun es (e : Entry α) => entry?_putEntry (Text.fold name) e es) t.entries u.entries
  rw [List.map_id, ← entry?_eq_getLast? h] at hfind
  rw [get?, find?, merge, hfind, Option.map_or]
  rfl

end Keyed
end Verdict
