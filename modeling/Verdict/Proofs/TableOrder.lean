/-
# Which entries a table has, and in which order

A table that is made of pairs has one entry for each folding of a name, where the first of the names with
that folding stands, and it has the name and the value of the last of them:

| of the pairs | is |
| --- | --- |
| `Keyed.firstKeys` | the foldings of the names, each where it first appears |
| `Keyed.last?` | the last pair with a folding |

So a table of facts answers for each token with the fact of the last member under a spelling of it, and
lists under each spelling what looking that up gives (`fact_table_last_wins`).  A table may as well be kept
as two maps, one of names and one of facts: written side by side, they have the same keys in the same
order, and the same winners (`FactTable.maps_side_by_side`).
-/

import Mathlib.Data.Finset.Card
import Mathlib.Data.List.Induction
import Verdict.Proofs.EchoedFacts

namespace Verdict

open Text

namespace Keyed

variable {α β : Type}

/-- The foldings of the names of some pairs, each where it first appears. -/
def firstKeys (pairs : List (String × α)) : List String := (pairs.map fun p => fold p.1).eraseDups

/-- The last of some pairs whose name has a given folding. -/
def last? (pairs : List (String × α)) (key : String) : Option (String × α) :=
  (pairs.filter fun p => fold p.1 = key).getLast?

theorem firstKeys_map (f : α → β) (pairs : List (String × α)) :
    firstKeys (pairs.map fun p => (p.1, f p.2)) = firstKeys pairs := by
  rw [firstKeys, firstKeys, List.map_map]
  rfl

theorem last?_map (f : α → β) (pairs : List (String × α)) (key : String) :
    last? (pairs.map fun p => (p.1, f p.2)) key = (last? pairs key).map fun p => (p.1, f p.2) := by
  rw [last?, last?, List.filter_map, List.getLast?_map]
  rfl

theorem mem_firstKeys {pairs : List (String × α)} {key : String} :
    key ∈ firstKeys pairs ↔ ∃ p ∈ pairs, fold p.1 = key := by
  rw [firstKeys, List.mem_eraseDups, List.mem_map]

/-- There is a last pair if there is any. -/
theorem isSome_last?_iff {pairs : List (String × α)} {key : String} :
    (last? pairs key).isSome = true ↔ ∃ p ∈ pairs, fold p.1 = key := by
  rw [last?, List.getLast?_isSome, ne_eq, List.filter_eq_nil_iff]
  simp only [decide_eq_true_eq, not_forall, not_not, exists_prop]

theorem ofList_append_singleton (pairs : List (String × α)) (p : String × α) :
    ofList (pairs ++ [p]) = (ofList pairs).put p.1 p.2 := by
  rw [ofList, putAll, List.foldl_append]
  rfl

/-! ### The keys -/

theorem map_key_putEntry (new : Entry α) (es : List (Entry α)) :
    (putEntry new es).map (·.key) =
      if new.key ∈ es.map (·.key) then es.map (·.key) else es.map (·.key) ++ [new.key] := by
  induction es with
  | nil => rfl
  | cons e r ih =>
      rw [putEntry]
      by_cases hk : e.key = new.key
      · rw [if_pos hk, if_pos (List.mem_map.mpr ⟨e, List.mem_cons_self, hk⟩), List.map_cons,
          List.map_cons, hk]
      · rw [if_neg hk, List.map_cons, ih, List.map_cons]
        by_cases hr : new.key ∈ r.map (·.key)
        · rw [if_pos hr, if_pos (List.mem_cons_of_mem _ hr)]
        · rw [if_neg hr, if_neg fun h => (List.mem_cons.mp h).elim (fun h => hk h.symm) hr]
          rfl

/-- **A table has each key once, in the order of first appearance.** -/
theorem map_key_ofList (pairs : List (String × α)) :
    (ofList pairs).entries.map (·.key) = firstKeys pairs := by
  induction pairs using List.reverseRecOn with
  | nil => rfl
  | append_singleton r p ih =>
      have hmem : fold p.1 ∈ (ofList r).entries.map (·.key) ↔ fold p.1 ∈ r.map fun q => fold q.1 := by
        rw [ih, firstKeys, List.mem_eraseDups]
      rw [ofList_append_singleton, put, map_key_putEntry, firstKeys, List.map_append,
        List.eraseDups_append, ← firstKeys, ← ih, List.map_singleton]
      by_cases hp : fold p.1 ∈ r.map fun q => fold q.1
      · rw [if_pos (hmem.mpr hp)]
        simp [List.removeAll, hp]
      · rw [if_neg (mt hmem.mp hp)]
        simp [List.removeAll, hp, List.eraseDups_cons]

theorem nodup_firstKeys (pairs : List (String × α)) : (firstKeys pairs).Nodup := by
  rw [← map_key_ofList]
  exact List.pairwise_map.mpr (distinct_ofList pairs)

/-- There is one key for each folding. -/
theorem length_firstKeys (pairs : List (String × α)) :
    (firstKeys pairs).length = (pairs.map fun p => fold p.1).toFinset.card := by
  rw [← List.toFinset_card_of_nodup (nodup_firstKeys pairs)]
  congr 1
  ext key
  rw [List.mem_toFinset, List.mem_toFinset, firstKeys, List.mem_eraseDups]

/-! ### The entries -/

/-- **A name finds the last pair** with its folding. -/
theorem find?_ofList (pairs : List (String × α)) (name : String) :
    (ofList pairs).find? name = (last? pairs (fold name)).map fun p => ⟨fold p.1, p.1, p.2⟩ := by
  have h := find_foldl_write (f := fun t : Keyed α => t.find? name)
    (fun t p => find?_put t p.1 name p.2) empty pairs
  rw [ofList, putAll, h, List.getLast?_map]
  exact Option.or_none

/-- Where no two entries have the same folding, each entry is found under its own. -/
theorem entry?_of_mem {es : List (Entry α)} (h : Distinct es) {e : Entry α} (he : e ∈ es) :
    entry? e.key es = some e := by
  induction es with
  | nil => cases he
  | cons first r ih =>
      obtain ⟨hfirst, hr⟩ := List.pairwise_cons.mp h
      unfold entry?
      rcases List.mem_cons.mp he with rfl | he
      · rw [if_pos rfl]
      · rw [if_neg (hfirst e he), ih hr he]

/-- An entry of a table is that of the last pair under its key. -/
theorem last?_of_mem {pairs : List (String × α)} {e : Entry α} (he : e ∈ (ofList pairs).entries) :
    last? pairs e.key = some (e.name, e.value) := by
  have hfind : (ofList pairs).find? e.name = some e := by
    rw [find?, ← folded_ofList pairs e he]
    exact entry?_of_mem (distinct_ofList pairs) he
  rw [find?_ofList, ← folded_ofList pairs e he] at hfind
  obtain ⟨p, hp, rfl⟩ := Option.map_eq_some_iff.mp hfind
  exact hp

/-- **The names and values of a table** are those of the last pair for each key, in the order of the
keys. -/
theorem forall₂_toList_ofList (pairs : List (String × α)) :
    List.Forall₂ (fun key p => last? pairs key = some p) (firstKeys pairs) (ofList pairs).toList := by
  rw [← map_key_ofList, toList, List.forall₂_map_left_iff, List.forall₂_map_right_iff,
    List.forall₂_same]
  exact fun e he => last?_of_mem he

/-- Each name that a table lists finds the value beside it. -/
theorem get?_of_mem_toList {pairs : List (String × α)} {p : String × α}
    (hp : p ∈ (ofList pairs).toList) : (ofList pairs).get? p.1 = some p.2 := by
  obtain ⟨e, he, rfl⟩ := List.mem_map.mp hp
  rw [get?, find?_ofList, ← folded_ofList pairs e he, last?_of_mem he]
  rfl

end Keyed

/-! ### Two maps side by side -/

/-- A map from keys to values, in the order of insertion, with a value put under a key: a key that is there
keeps its place. -/
def putPair {β : Type} (key : String) (value : β) : List (String × β) → List (String × β)
  | [] => [(key, value)]
  | p :: r => if p.1 = key then (key, value) :: r else p :: putPair key value r

namespace Keyed

variable {α β : Type}

/-- What an entry is put into is seen through any part of the entries. -/
theorem map_putEntry (g : Entry α → β) (new : Entry α) (es : List (Entry α)) :
    (putEntry new es).map (fun e => (e.key, g e)) =
      putPair new.key (g new) (es.map fun e => (e.key, g e)) := by
  induction es with
  | nil => rfl
  | cons e r ih =>
      rw [putEntry, List.map_cons, putPair]
      split
      · rfl
      · rw [List.map_cons, ih]

theorem map_entries_ofList (g : Entry α → β) (pairs : List (String × α)) :
    (ofList pairs).entries.map (fun e => (e.key, g e)) =
      pairs.foldl (fun m p => putPair (fold p.1) (g ⟨fold p.1, p.1, p.2⟩) m) [] := by
  induction pairs using List.reverseRecOn with
  | nil => rfl
  | append_singleton r p ih =>
      rw [ofList_append_singleton, put, map_putEntry, ih, List.foldl_append]
      rfl

end Keyed

namespace FactTable

variable (fields : List (String × Value))

/-- **A table of facts is two maps side by side:** one from the keys to the names, and one from the keys to
the facts, each written in the order of the members.  Both have the same keys in the same order, and the
names and facts of the table are those that stand side by side. -/
theorem maps_side_by_side :
    let names := fields.foldl (fun m f => putPair (fold f.1) f.1 m) []
    let facts := fields.foldl (fun m f => putPair (fold f.1) (Fact.of f.2) m) []
    names.map Prod.fst = facts.map Prod.fst ∧
      (ofFields fields).toList = (names.map Prod.snd).zip (facts.map Prod.snd) := by
  intro names facts
  have hnames : (ofFields fields).entries.map (fun e => (e.key, e.name)) = names := by
    rw [ofFields, Keyed.map_entries_ofList, List.foldl_map]
  have hfacts : (ofFields fields).entries.map (fun e => (e.key, e.value)) = facts := by
    rw [ofFields, Keyed.map_entries_ofList, List.foldl_map]
  constructor
  · rw [← hnames, ← hfacts, List.map_map, List.map_map]
    rfl
  · rw [← hnames, ← hfacts, List.map_map, List.map_map, List.zip_map', Keyed.toList]
    rfl

/-! ### Tables of facts -/

theorem get?_ofFields (token : String) :
    (ofFields fields).get? token = (Keyed.last? fields (fold token)).map fun f => Fact.of f.2 := by
  rw [Keyed.get?, ofFields, Keyed.find?_ofList, Keyed.last?_map, Option.map_map, Option.map_map]
  rfl

theorem contains_iff {token : String} :
    (ofFields fields).contains token = true ↔ ∃ f ∈ fields, fold f.1 = fold token := by
  rw [← Keyed.isSome_last?_iff, Keyed.contains, ofFields, Keyed.find?_ofList, Keyed.last?_map,
    Option.isSome_map, Option.isSome_map]

theorem fetch_ofFields (token : String) :
    (ofFields fields).fetch token =
      match Keyed.last? fields (fold token) with
      | some f => .ok (Fact.of f.2)
      | none => .error (.unknownToken (fold token)) := by
  rw [fetch, get?_ofFields]
  cases Keyed.last? fields (fold token) <;> rfl

theorem lookup_of_mem_toList {p : String × Fact} (hp : p ∈ (ofFields fields).toList) :
    (ofFields fields).lookup p.1 = p.2 := by
  rw [lookup, ofFields, Keyed.get?_of_mem_toList hp]
  rfl

/-- **A table of facts is a map in which the last member counts,** keyed by case folding:

- a token is looked up as the fact of the last member with its folding, and as the absent fact if there is
  none; it is in the table, and fetching it succeeds, exactly if there is such a member;
- the table has as many entries as the names have foldings;
- what it lists is, for each folding in the order in which they first appear, the name and the fact of the
  last member with that folding: the names, the items and the echoes are parts of this one list;
- under each name it lists, looking that up gives what stands beside it. -/
theorem fact_table_last_wins (token : String) :
    let table := ofFields fields
    let last := Keyed.last? fields
    let keys := Keyed.firstKeys fields
    table.lookup token = ((last (fold token)).map fun f => Fact.of f.2).getD Fact.absent ∧
    (table.contains token = true ↔ ∃ f ∈ fields, fold f.1 = fold token) ∧
    ((∃ fact, table.fetch token = .ok fact) ↔ ∃ f ∈ fields, fold f.1 = fold token) ∧
    (∀ fact, table.fetch token = .ok fact → fact = table.lookup token) ∧
    table.size = (fields.map fun f => fold f.1).toFinset.card ∧
    (keys.Nodup ∧ ∀ key, key ∈ keys ↔ ∃ f ∈ fields, fold f.1 = key) ∧
    List.Forall₂ (fun key p => ∃ f, last key = some f ∧ p = (f.1, Fact.of f.2)) keys table.toList ∧
    table.names = table.toList.map Prod.fst ∧
    table.toList = table.names.map (fun name => (name, table.lookup name)) ∧
    table.echoes = table.names.map (fun name => (name, (table.lookup name).echo)) := by
  intro table last keys
  have hsize := congrArg List.length (Keyed.map_key_ofList (fields.map fun f => (f.1, Fact.of f.2)))
  rw [List.length_map, Keyed.firstKeys_map, Keyed.length_firstKeys] at hsize
  have hitems : table.toList = table.names.map fun name => (name, table.lookup name) := by
    rw [Keyed.names, List.map_map]
    refine List.map_congr_left fun e he => ?_
    have hp : (e.name, e.value) ∈ table.toList := List.mem_map_of_mem he
    exact Prod.ext rfl (lookup_of_mem_toList fields hp).symm
  refine ⟨?_, contains_iff fields, ?_, ?_, hsize,
    ⟨Keyed.nodup_firstKeys fields, fun _ => Keyed.mem_firstKeys⟩, ?_, ?_, hitems, ?_⟩
  · rw [lookup, get?_ofFields]
  · rw [fetch_ofFields, ← Keyed.isSome_last?_iff]
    cases Keyed.last? fields (fold token) with
    | none => simp
    | some f => simp
  · intro fact
    rw [fetch_ofFields, lookup, get?_ofFields]
    cases Keyed.last? fields (fold token) with
    | none => simp
    | some f => simp [eq_comm]
  · have h := Keyed.forall₂_toList_ofList (fields.map fun f => (f.1, Fact.of f.2))
    rw [Keyed.firstKeys_map] at h
    refine h.imp fun key p hp => ?_
    rw [Keyed.last?_map] at hp
    obtain ⟨f, hf, rfl⟩ := Option.map_eq_some_iff.mp hp
    exact ⟨f, hf, rfl⟩
  · rw [Keyed.toList, List.map_map]
    rfl
  · rw [echoes, hitems, List.map_map]
    rfl

end FactTable

end Verdict
