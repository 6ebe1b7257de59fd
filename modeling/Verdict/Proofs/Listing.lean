/-
# The listing of a directory

A file system lists what it holds in an order of its own.  The names in a directory are sorted, so
that each comes once, in the order of its characters (`Files.pairwise_names`), and those of its rule
files are all that have the suffix of one (`Registry.mem_ruleNames`).  Whatever the order of the
listing was, a path leads to the same (`Files.Relists.find?_eq`), and the same is loaded from a
directory (`Files.Relists.loadDirectory_eq`).
-/

import Mathlib.Data.List.Nodup
import Verdict.Registry.Basic

namespace Verdict

/-! ### Sorting by texts, and looking up -/

/-- Sorting by texts puts them in the order of their characters. -/
theorem pairwise_mergeSort_text {α : Type} (text : α → String) (xs : List α) :
    (xs.mergeSort fun a b => !(text b < text a)).Pairwise fun a b => text a ≤ text b := by
  refine (List.pairwise_mergeSort (fun a b c hab hbc => ?_) (fun a b => ?_) xs).imp fun h => ?_
  · simp only [Bool.not_eq_true', decide_eq_false_iff_not, String.not_lt] at hab hbc ⊢
    exact String.le_trans hab hbc
  · simpa only [Bool.or_eq_true, Bool.not_eq_true', decide_eq_false_iff_not, String.not_lt] using
      String.le_total (text a) (text b)
  · simpa only [Bool.not_eq_true', decide_eq_false_iff_not, String.not_lt] using h

/-- Texts in order, none of which stands twice, ascend. -/
theorem pairwise_lt_of_nodup {names : List String} (h : names.Pairwise (· ≤ ·))
    (hn : names.Nodup) : names.Pairwise (· < ·) :=
  (h.and hn).imp fun ⟨hle, hne⟩ =>
    Decidable.byContradiction fun hlt => hne (String.le_antisymm hle (String.not_lt.mp hlt))

/-- Where no key stands twice, what is found under a key is what stands there. -/
theorem lookup_eq_some_iff_mem {α β : Type} [BEq α] [LawfulBEq α] {entries : List (α × β)}
    (h : (entries.map (·.1)).Nodup) {key : α} {b : β} :
    entries.lookup key = some b ↔ (key, b) ∈ entries := by
  rw [List.lookup_eq_some_iff]
  constructor
  · rintro ⟨before, after, rfl, -⟩
    exact List.mem_append_right _ List.mem_cons_self
  · intro hmem
    obtain ⟨before, after, rfl⟩ := List.append_of_mem hmem
    refine ⟨before, after, rfl, fun p hp => bne_iff_ne.mpr fun hkey => ?_⟩
    rw [List.map_append, List.map_cons, List.nodup_append] at h
    exact h.2.2 _ (List.mem_map_of_mem hp) _ List.mem_cons_self hkey.symm

/-- So the order of the entries is of no account. -/
theorem lookup_eq_of_perm {α β : Type} [BEq α] [LawfulBEq α] {entries entries' : List (α × β)}
    (h : (entries.map (·.1)).Nodup) (hp : entries'.Perm entries) (key : α) :
    entries'.lookup key = entries.lookup key := by
  refine Option.ext fun b => ?_
  rw [lookup_eq_some_iff_mem h, lookup_eq_some_iff_mem ((hp.map _).nodup_iff.mpr h), hp.mem_iff]

namespace Files

/-! ### The places of a tree -/

/-- Whether no place stands twice in a tree. -/
def Distinct (fs : Files) : Prop := (fs.nodes.map (·.1)).Nodup

instance (fs : Files) : Decidable fs.Distinct := inferInstanceAs (Decidable (List.Nodup _))

variable {fs fs' : Files}

theorem Distinct.filter (h : fs.Distinct) (keep : List String × FileNode → Bool) :
    Distinct ⟨fs.nodes.filter keep⟩ :=
  List.Nodup.sublist (List.filter_sublist.map _) h

theorem Distinct.put (h : fs.Distinct) (place : List String) (node : FileNode) :
    (fs.put place node).Distinct := by
  refine List.nodup_cons.mpr ⟨fun hmem => ?_, h.filter _⟩
  obtain ⟨e, he, hplace⟩ := List.mem_map.mp hmem
  exact bne_iff_ne.mp (List.mem_filter.mp he).2 hplace

theorem Distinct.makeStep {found : Files × Spot} (h : found.1.Distinct) (name : String) :
    (Files.makeStep found name).1.Distinct := by
  unfold Files.makeStep
  split
  · exact h
  · exact h.put _ _
  · exact h

theorem Distinct.foldl_makeStep {found : Files × Spot} (h : found.1.Distinct) (p : Path) :
    (p.foldl Files.makeStep found).1.Distinct := by
  induction p generalizing found with
  | nil => exact h
  | cons name rest ih => exact ih (h.makeStep name)

/-- **Writing and removing keep the places apart.** -/
theorem Distinct.write (h : fs.Distinct) (p : Path) (node : FileNode) : (fs.write p node).Distinct := by
  have hmade : (p.dropLast.foldl Files.makeStep (fs, .inside [])).1.Distinct :=
    Distinct.foldl_makeStep h p.dropLast
  unfold Files.write
  generalize p.dropLast.foldl Files.makeStep (fs, .inside []) = made at hmade ⊢
  obtain ⟨made, spot⟩ := made
  cases spot with
  | outside => exact hmade
  | inside place =>
      cases p.getLast? with
      | none => exact hmade
      | some name => exact hmade.put _ _

theorem Distinct.remove (h : fs.Distinct) (p : Path) : (fs.remove p).Distinct := by
  unfold Files.remove
  split
  · exact h.filter _
  · exact h

/-! ### The names in a directory -/

theorem eq_concat_name {place q : List String} (hne : place.isEmpty = false) (h : place.dropLast = q) :
    place = q ++ [Path.name place] := by
  have hne : place ≠ [] := fun hnil => by rw [hnil] at hne; cases hne
  rw [Path.name, List.getLast?_eq_some_getLast hne, Option.getD_some, ← h,
    List.dropLast_append_getLast hne]

/-- What stands in the directory at a place. -/
def inside (fs : Files) (place : List String) : List (List String × FileNode) :=
  fs.nodes.filter fun e => !e.1.isEmpty && e.1.dropLast == place

theorem map_fst_inside (fs : Files) (place : List String) :
    ((fs.inside place).map fun e => place ++ [Path.name e.1]) = (fs.inside place).map (·.1) := by
  refine List.map_congr_left fun e he => ?_
  obtain ⟨hne, hplace⟩ := Bool.and_eq_true_iff.mp (List.mem_filter.mp he).2
  exact (eq_concat_name (Bool.not_eq_true' _ ▸ hne) (beq_iff_eq.mp hplace)).symm

theorem perm_names {p : Path} {place : List String} (h : fs.locate? p = some (.inside place)) :
    (fs.names p).Perm ((fs.inside place).map fun e => Path.name e.1) := by
  rw [names, h]
  exact List.mergeSort_perm _ _

theorem names_of_not_inside {p : Path} (h : ∀ place, fs.locate? p ≠ some (.inside place)) :
    fs.names p = [] := by
  unfold names
  split
  · next place hplace => exact absurd hplace (h place)
  · rfl

/-- **The names in a directory ascend:** each stands there once. -/
theorem pairwise_names (h : fs.Distinct) (p : Path) : (fs.names p).Pairwise (· < ·) := by
  by_cases hp : ∃ place, fs.locate? p = some (.inside place)
  · obtain ⟨place, hplace⟩ := hp
    refine pairwise_lt_of_nodup ?_ ?_
    · rw [names, hplace]
      exact pairwise_mergeSort_text id _
    · have hplaces : (((fs.inside place).map fun e => Path.name e.1).map (place ++ [·])).Nodup := by
        rw [List.map_map, show (place ++ [·]) ∘ (fun e : List String × FileNode => Path.name e.1) =
          fun e => place ++ [Path.name e.1] from rfl, map_fst_inside]
        exact h.filter _
      exact (perm_names hplace).nodup_iff.mpr (List.Nodup.of_map _ hplaces)
  · rw [names_of_not_inside fun place hplace => hp ⟨place, hplace⟩]
    exact List.Pairwise.nil

theorem mem_names {p : Path} {place : List String} (h : fs.locate? p = some (.inside place))
    (name : String) : name ∈ fs.names p ↔ (fs.nodeAt? (place ++ [name])).isSome = true := by
  rw [(perm_names h).mem_iff, nodeAt?, if_neg (by simp), List.lookup_isSome_iff]
  constructor
  · intro hmem
    obtain ⟨e, he, rfl⟩ := List.mem_map.mp hmem
    obtain ⟨hnode, hin⟩ := List.mem_filter.mp he
    obtain ⟨hne, hplace⟩ := Bool.and_eq_true_iff.mp hin
    exact ⟨e, hnode, beq_iff_eq.mpr
      (eq_concat_name (Bool.not_eq_true' _ ▸ hne) (beq_iff_eq.mp hplace)).symm⟩
  · rintro ⟨e, hnode, he⟩
    have he : place ++ [name] = e.1 := beq_iff_eq.mp he
    refine List.mem_map.mpr ⟨e, List.mem_filter.mpr ⟨hnode, ?_⟩, ?_⟩
    · simp [← he]
    · simp [← he, Path.name]

/-- A name by which a path is neither led back nor out leads to what stands in its directory. -/
theorem mem_names_iff {p : Path} {name : String} (hp : fs.find? p = some .directory)
    (hroot : name ≠ "/") (hback : name ≠ "..") :
    name ∈ fs.names p ↔ (fs.find? (p ++ [name])).isSome = true := by
  unfold find? at hp ⊢
  rw [show fs.locate? (p ++ [name]) = (fs.locate? p).bind fun spot => fs.step? spot name by
    simp [locate?, List.foldlM_append]]
  cases hspot : fs.locate? p with
  | none =>
      rw [hspot] at hp
      cases hp
  | some spot =>
      cases spot with
      | outside =>
          rw [names_of_not_inside fun place hplace => by rw [hspot] at hplace; cases hplace]
          simp [step?, hroot, hback]
      | inside place =>
          rw [hspot] at hp
          have hdir : fs.nodeAt? place = some .directory := hp
          rw [mem_names hspot]
          cases hnode : fs.nodeAt? (place ++ [name]) <;>
            simp [step?, hdir, hroot, hback, hnode, nodeOf?]

/-! ### In another order -/

/-- Whether a tree holds what another one does, in an order of its own. -/
def Relists (fs' fs : Files) : Prop := fs'.nodes.Perm fs.nodes

namespace Relists

variable (h : fs'.Relists fs) (hfs : fs.Distinct)
include h hfs

theorem nodeAt?_eq (place : List String) : fs'.nodeAt? place = fs.nodeAt? place := by
  rw [nodeAt?, nodeAt?, lookup_eq_of_perm hfs h]

theorem step?_eq (spot : Spot) (name : String) : fs'.step? spot name = fs.step? spot name := by
  cases spot with
  | outside => rfl
  | inside place => simp only [step?, h.nodeAt?_eq hfs]

theorem nodeOf?_eq (spot : Spot) : fs'.nodeOf? spot = fs.nodeOf? spot := by
  cases spot with
  | outside => rfl
  | inside place => exact h.nodeAt?_eq hfs place

theorem locate?_eq (p : Path) : fs'.locate? p = fs.locate? p := by
  rw [locate?, locate?, show fs'.step? = fs.step? from
    funext fun spot => funext fun name => h.step?_eq hfs spot name]

/-- **A path leads to the same.** -/
theorem find?_eq (p : Path) : fs'.find? p = fs.find? p := by
  rw [find?, find?, h.locate?_eq hfs, show fs'.nodeOf? = fs.nodeOf? from funext (h.nodeOf?_eq hfs)]

theorem missing?_eq (spot : Spot) (p : Path) : fs'.missing? spot p = fs.missing? spot p := by
  induction p generalizing spot with
  | nil => rfl
  | cons name rest ih => simp only [missing?, h.step?_eq hfs, h.nodeOf?_eq hfs, ih]

theorem isTooLong_eq (p : Path) : fs'.isTooLong p = fs.isTooLong p := by
  rw [isTooLong, isTooLong, h.missing?_eq hfs]

theorem names_eq (p : Path) : fs'.names p = fs.names p := by
  have hlocate := h.locate?_eq hfs p
  by_cases hp : ∃ place, fs.locate? p = some (.inside place)
  · obtain ⟨place, hplace⟩ := hp
    have hperm : (fs'.names p).Perm (fs.names p) :=
      (perm_names (hlocate.trans hplace)).trans
        (((h.filter _).map _).trans (perm_names hplace).symm)
    have hfs' : fs'.Distinct := (h.map _).nodup_iff.mpr hfs
    exact hperm.eq_of_pairwise (fun _ _ _ _ hab hba => absurd (String.lt_trans hab hba)
      (String.lt_irrefl _)) (pairwise_names hfs' p) (pairwise_names hfs p)
  · have hnone : ∀ place, fs.locate? p ≠ some (.inside place) := fun place hplace => hp ⟨place, hplace⟩
    rw [names_of_not_inside hnone, names_of_not_inside (hlocate ▸ hnone)]

theorem document_eq (p : Path) : fs'.document p = fs.document p := by
  rw [document, document, h.find?_eq hfs, h.isTooLong_eq hfs]

theorem loadAll_eq (dir : Path) (r found : Registry) (names : List String) :
    Registry.loadAll fs' dir r found names = Registry.loadAll fs dir r found names := by
  induction names generalizing r found with
  | nil => rfl
  | cons name rest ih => simp only [Registry.loadAll, h.document_eq hfs, ih]

/-- **The same is loaded from a directory.** -/
theorem loadDirectory_eq (dir : Option Path) (r : Registry) :
    r.loadDirectory fs' dir = r.loadDirectory fs dir := by
  cases dir with
  | none => rfl
  | some p =>
      simp only [Registry.loadDirectory, Registry.ruleNames, h.find?_eq hfs, h.isTooLong_eq hfs,
        h.names_eq hfs, h.loadAll_eq hfs]

end Relists
end Files

namespace Registry

theorem pairwise_ruleNames {fs : Files} (h : fs.Distinct) (p : Path) :
    (ruleNames fs p).Pairwise (· < ·) := (fs.pairwise_names h p).filter _

/-- **The names of the rule files in a directory** are all with the suffix of one that stand there. -/
theorem mem_ruleNames {fs : Files} {p : Path} (hp : fs.find? p = some .directory) {name : String} :
    name ∈ ruleNames fs p ↔
      Path.suffix name ∈ ruleSuffixes ∧ (fs.find? (p ++ [name])).isSome = true := by
  have hroot : Path.suffix "/" ∉ ruleSuffixes := by decide +kernel
  have hback : Path.suffix ".." ∉ ruleSuffixes := by decide +kernel
  rw [ruleNames, List.mem_filter, List.contains_iff_mem, and_comm]
  refine and_congr_right fun hsuffix => ?_
  exact Files.mem_names_iff hp (fun h => hroot (h ▸ hsuffix)) fun h => hback (h ▸ hsuffix)

end Registry
end Verdict
