/-
# The ids of a registry

A registry has each id once, in the order in which the ids first came: putting in a document leaves
the ids that are there in their places, and adds a new one behind them (`Registry.ids_put`).  Sorted,
the ids come in the order of their characters (`Registry.pairwise_sortedIds`).

Loading files puts in the documents of those that are read, which are all up to the first that ends the
loading (`Registry.loadAll_fst`).
-/

import Verdict.Proofs.DirectoryLoad
import Verdict.Proofs.Listing

namespace Verdict

namespace Registry

/-! ### Putting documents in -/

theorem map_fst_putRule (id : String) (d : Document) (rules : List (String × Document)) :
    (putRule id d rules).map (·.1) =
      if id ∈ rules.map (·.1) then rules.map (·.1) else rules.map (·.1) ++ [id] := by
  induction rules with
  | nil => rfl
  | cons p r ih =>
      obtain ⟨k, old⟩ := p
      rw [putRule]
      by_cases hk : k = id
      · rw [if_pos hk, if_pos (List.mem_map.mpr ⟨_, List.mem_cons_self, hk⟩)]
        rfl
      · rw [if_neg hk, List.map_cons, ih, List.map_cons]
        by_cases hr : id ∈ r.map (·.1)
        · rw [if_pos hr, if_pos (List.mem_cons_of_mem _ hr)]
        · rw [if_neg hr, if_neg fun h => (List.mem_cons.mp h).elim (fun h => hk h.symm) hr]
          rfl

/-- **Putting in a document keeps the ids** in their places, and adds a new one behind them. -/
theorem ids_put (r : Registry) (id : String) (d : Document) :
    (r.put id d).ids = if id ∈ r.ids then r.ids else r.ids ++ [id] :=
  map_fst_putRule id d r.rules

theorem ids_prefix_put (r : Registry) (id : String) (d : Document) :
    r.ids <+: (r.put id d).ids := by
  rw [ids_put]
  split
  · exact List.prefix_rfl
  · exact List.prefix_append _ _

theorem ids_prefix_putAll (r : Registry) (rules : List (String × Document)) :
    r.ids <+: (r.putAll rules).ids := by
  induction rules generalizing r with
  | nil => exact List.prefix_rfl
  | cons p rest ih => exact (r.ids_prefix_put p.1 p.2).trans (ih _)

theorem nodup_ids_put {r : Registry} (h : r.ids.Nodup) (id : String) (d : Document) :
    (r.put id d).ids.Nodup := by
  rw [ids_put]
  split
  · exact h
  · next hid => exact List.nodup_append.mpr ⟨h, List.nodup_singleton id, fun a ha b hb hab =>
      hid (List.mem_singleton.mp hb ▸ hab ▸ ha)⟩

/-- No id stands twice in a registry into which documents are put. -/
theorem nodup_ids_putAll {r : Registry} (h : r.ids.Nodup) (rules : List (String × Document)) :
    (r.putAll rules).ids.Nodup := by
  induction rules generalizing r with
  | nil => exact h
  | cons p rest ih => exact ih (nodup_ids_put h p.1 p.2)

/-! ### Looking documents up -/

theorem isSome_get?_iff {r : Registry} {id : String} : (r.get? id).isSome = true ↔ id ∈ r.ids := by
  rw [get?, List.lookup_isSome_iff, ids, List.mem_map]
  exact exists_congr fun p => and_congr_right fun _ => by rw [beq_iff_eq, eq_comm]

/-- An id finds nothing exactly if it is not in the registry. -/
theorem get?_eq_none_iff {r : Registry} {id : String} : r.get? id = none ↔ id ∉ r.ids := by
  rw [← isSome_get?_iff, Option.not_isSome_iff_eq_none]

/-- Where no id stands twice, the documents in a registry are those that are found. -/
theorem mem_rules_iff {r : Registry} (h : r.ids.Nodup) {id : String} {d : Document} :
    (id, d) ∈ r.rules ↔ r.get? id = some d := (lookup_eq_some_iff_mem h).symm

/-! ### In the order of the ids -/

theorem perm_sortedIds (r : Registry) : r.sortedIds.Perm r.ids := List.mergeSort_perm _ _

/-- **The sorted ids ascend** where no id stands twice. -/
theorem pairwise_sortedIds {r : Registry} (h : r.ids.Nodup) : r.sortedIds.Pairwise (· < ·) :=
  pairwise_lt_of_nodup (pairwise_mergeSort_text id r.ids) (r.perm_sortedIds.nodup_iff.mpr h)

theorem perm_sorted (r : Registry) : r.sorted.Perm r.rules := List.mergeSort_perm _ _

theorem pairwise_sorted {r : Registry} (h : r.ids.Nodup) :
    (r.sorted.map (·.1)).Pairwise (· < ·) :=
  pairwise_lt_of_nodup (List.pairwise_map.mpr (pairwise_mergeSort_text Prod.fst r.rules))
    ((r.perm_sorted.map _).nodup_iff.mpr h)

/-! ### Loading files -/

section
variable (fs : Files) (dir : Path)

/-- The names of the files that a loading reads: all up to the first that ends it. -/
def namesRead : List String → List String
  | [] => []
  | name :: rest =>
    name ::
      match (fs.document (dir ++ [name])).result with
      | .ok _ => namesRead rest
      | .error e => if isUnreadable e then namesRead rest else []

/-- **A loading leaves the documents of the files that it reads,** put in one after the other. -/
theorem loadAll_fst (r found : Registry) (names : List String) :
    (loadAll fs dir r found names).1 = r.putAll (documents fs dir (namesRead fs dir names)) := by
  induction names generalizing r found with
  | nil => rfl
  | cons name rest ih =>
      cases hread : (fs.document (dir ++ [name])).result with
      | ok d =>
          rw [loadAll_cons_of_ok hread, namesRead, hread, documents_cons_of_ok hread]
          exact ih _ _
      | error e =>
          rw [namesRead, hread, documents_cons_of_error hread]
          cases he : isUnreadable e with
          | true =>
              rw [loadAll_cons_of_unreadable hread he]
              simpa only [he, if_true, behind] using ih r found
          | false =>
              rw [loadAll_cons_of_aborts ⟨hread, he⟩]
              simp only [he, Bool.false_eq_true, if_false]
              rfl

/-- A loading reads all files where none of them ends it. -/
theorem namesRead_eq_self {names : List String} (h : ∀ name ∈ names, ∀ e, ¬ Aborts fs dir name e) :
    namesRead fs dir names = names := by
  induction names with
  | nil => rfl
  | cons name rest ih =>
      rw [List.forall_mem_cons] at h
      rw [namesRead, ih h.2]
      split
      · rfl
      · next e hread =>
        cases he : isUnreadable e with
        | true => rfl
        | false => exact absurd ⟨hread, he⟩ (h.1 e)

end

/-- A path that leads to no directory leaves the registry as it is. -/
theorem loadDirectory_of_not_directory {fs : Files} {dir : Option Path} (r : Registry)
    (h : ∀ p, dir = some p → fs.find? p ≠ some .directory) : (r.loadDirectory fs dir).1 = r := by
  unfold loadDirectory
  split
  · rfl
  · next p =>
    split
    · rfl
    · rfl
    · next hdir => exact absurd hdir (h p rfl)

/-- No id stands twice in a registry into which a directory is loaded. -/
theorem nodup_ids_loadDirectory {r : Registry} (h : r.ids.Nodup) (fs : Files) (dir : Option Path) :
    (r.loadDirectory fs dir).1.ids.Nodup := by
  unfold loadDirectory
  split
  · exact h
  · split
    · exact h
    · exact h
    · rw [loadAll_fst]
      exact nodup_ids_putAll h _

end Registry
end Verdict
