/-
# Loading a directory

A directory is loaded file by file.  A file that cannot be opened is passed over with a notice, and
one that holds no rules stands for the empty document, with a notice as well.  What ends the loading
is a file with text that cannot be read at all (`Registry.Aborts`): it is not UTF-8, it has a number
that no decimal holds, or it is YAML with a scalar that has no value, or nested too deeply.  Where no
file of a directory is such, each stem has the last document among the files with that stem, whatever
the other files hold (`Registry.loadDirectory_cases`).
-/

import Verdict.Proofs.LastWritten
import Verdict.Proofs.Totality
import Verdict.Registry.Basic

namespace Verdict

open Value

/-! ### Reading a file -/

namespace Document

theorem exists_ofValue_ok (v : Value) : ∃ d, (ofValue v).result = .ok d := by
  unfold ofValue
  repeat' split
  all_goals exact ⟨_, rfl⟩

/-- Rules without a text stand for a document. -/
theorem exists_read_ok {rules : Value} (ht : rules.ruleText? = none) :
    ∃ d, (read rules).result = .ok d := by
  cases rules with
  | null => exact ⟨_, rfl⟩
  | text s =>
      obtain ⟨d, hd, -⟩ := exists_read_of_ruleText_eq_none (Or.inl (.text s)) ht
      exact ⟨d, hd⟩
  | bytes bs =>
      obtain ⟨d, hd, -⟩ := exists_read_of_ruleText_eq_none (Or.inr ⟨bs, rfl⟩) ht
      exact ⟨d, hd⟩
  | _ => exact exists_ofValue_ok _

/-- **Reading rules fails** exactly when a number out of range is the first fault of their text. -/
theorem read_eq_error_iff (rules : Value) (e : Failure) :
    (read rules).result = .error e ↔ rules.MeetsOutOfRange ∧ e = .decimalRange := by
  cases ht : rules.ruleText? with
  | some cs =>
      have hmeets : rules.MeetsOutOfRange ↔ Json.MeetsOutOfRange (.value []) cs := by
        rw [MeetsOutOfRange, ht]
        simp only [Option.some.injEq, exists_eq_left']
      rw [(read_of_ruleText ht).1, hmeets]
      by_cases hm : Json.MeetsOutOfRange (.value []) cs
      · rw [ofChars_of_meetsOutOfRange hm]
        refine ⟨fun h => ⟨hm, (Except.error.inj h).symm⟩, ?_⟩
        rintro ⟨-, rfl⟩
        rfl
      · obtain ⟨d, hd, -⟩ := exists_ofChars hm
        rw [hd]
        exact iff_of_false (by simp) fun h => hm h.1
  | none =>
      obtain ⟨d, hd⟩ := exists_read_ok ht
      rw [hd]
      refine iff_of_false (by simp) ?_
      rintro ⟨⟨cs, hcs, -⟩, -⟩
      rw [ht] at hcs
      cases hcs

end Document

namespace Registry

/-- Whether reading the text of a file ends with a failure: it is YAML whose values cannot be made, or a
number is out of range. -/
def CannotReadText (name : String) (cs : List Char) (e : Failure) : Prop :=
  if yamlSuffixes.contains (Path.suffix name) then
    match Yaml.read yamlDepth cs with
    | .ok v => v.MeetsOutOfRange ∧ e = .decimalRange
    | .error (.failed fault) => e = fault
    | .error .malformed => False
  else (Value.text (String.ofList cs)).MeetsOutOfRange ∧ e = .decimalRange

/-- Whether reading a file ends with a failure: it is not UTF-8, or its text cannot be read. -/
def CannotRead (name : String) (bytes : List UInt8) (e : Failure) : Prop :=
  match Text.Utf8.decode bytes with
  | none => e = .notUtf8
  | some cs => CannotReadText name (withLineFeeds cs) e

theorem ofFileText_eq_error_iff (name : String) (cs : List Char) (e : Failure) :
    (Document.ofFileText name cs).result = .error e ↔ CannotReadText name cs e := by
  unfold Document.ofFileText CannotReadText
  split
  · unfold Document.ofYaml
    cases Yaml.read yamlDepth cs with
    | ok v => exact Document.read_eq_error_iff v e
    | error fault =>
        cases fault with
        | failed f =>
            exact ⟨fun h => (Except.error.inj h).symm, fun h => congrArg Except.error h.symm⟩
        | malformed => exact ⟨nofun, False.elim⟩
  · exact Document.read_eq_error_iff (.text (String.ofList cs)) e

/-- **A file has no document** exactly when its text cannot be read. -/
theorem ofFile_eq_error_iff (name : String) (bytes : List UInt8) (e : Failure) :
    (Document.ofFile name bytes).result = .error e ↔ CannotRead name bytes e := by
  unfold Document.ofFile CannotRead
  cases Text.Utf8.decode bytes with
  | none => exact ⟨fun h => (Except.error.inj h).symm, fun h => congrArg Except.error h.symm⟩
  | some cs =>
      dsimp only
      rw [← ofFileText_eq_error_iff]
      cases hr : Document.ofFileText name (withLineFeeds cs) with
      | mk ns result =>
          cases result with
          | error f => rfl
          | ok d =>
              refine ⟨fun h => ?_, nofun⟩
              simp only [Reported.andThen] at h
              split at h <;> cases h

/-- Bytes that stand for the empty document are worth a notice. -/
theorem fileEmpty_mem_ofFile {name : String} {bytes : List UInt8} {d : Document}
    (h : (Document.ofFile name bytes).result = .ok d) (hempty : d.isEmpty = true) :
    .fileEmpty name ∈ (Document.ofFile name bytes).notices := by
  unfold Document.ofFile at h ⊢
  cases hcs : Text.Utf8.decode bytes with
  | none =>
      rw [hcs] at h
      cases h
  | some cs =>
      rw [hcs] at h
      dsimp only at h ⊢
      cases hr : Document.ofFileText name (withLineFeeds cs) with
      | mk ns result =>
          rw [hr] at h
          cases result with
          | error f => cases h
          | ok d' =>
              simp only [Reported.andThen] at h ⊢
              split at h
              · next hd' =>
                rw [if_pos hd']
                exact List.mem_append_right _ (List.mem_append_left _ (List.mem_singleton_self _))
              · next hd' =>
                obtain rfl := Except.ok.inj h
                exact absurd hempty hd'

theorem name_concat (dir : Path) (name : String) : Path.name (dir ++ [name]) = name := by
  rw [Path.name, List.getLast?_concat, Option.getD_some]

/-- Whether a file ends the loading of its directory. -/
def Aborts (fs : Files) (dir : Path) (name : String) (e : Failure) : Prop :=
  (fs.document (dir ++ [name])).result = .error e ∧ isUnreadable e = false

/-- **What ends the loading of a directory** is a file whose text cannot be read. -/
theorem aborts_iff {fs : Files} {dir : Path} {name : String} {e : Failure} :
    Aborts fs dir name e ↔
      isUnreadable e = false ∧
        ∃ bytes, fs.find? (dir ++ [name]) = some (.file bytes) ∧ CannotRead name bytes e := by
  unfold Aborts
  rw [and_comm]
  refine and_congr_right fun he => ?_
  unfold Files.document
  split
  · next hnone =>
    rw [hnone]
    refine iff_of_false (fun h => ?_) nofun
    obtain rfl := Except.error.inj h
    split at he <;> cases he
  · next hdirectory =>
    rw [hdirectory]
    refine iff_of_false (fun h => ?_) nofun
    obtain rfl := Except.error.inj h
    cases he
  · next bytes hfile =>
    rw [hfile, name_concat, ofFile_eq_error_iff]
    simp only [Option.some.injEq, FileNode.file.injEq, exists_eq_left']

/-- A file that stands for the empty document leaves a notice. -/
theorem fileEmpty_mem_document {fs : Files} {dir : Path} {name : String} {d : Document}
    (h : (fs.document (dir ++ [name])).result = .ok d) (hempty : d.isEmpty = true) :
    .fileEmpty name ∈ (fs.document (dir ++ [name])).notices := by
  unfold Files.document at h ⊢
  split at h
  · cases h
  · cases h
  · rw [name_concat] at h ⊢
    exact fileEmpty_mem_ofFile h hempty

/-! ### What a loading leaves -/

/-- The registry with documents put into it one after the other. -/
def putAll (r : Registry) (rules : List (String × Document)) : Registry :=
  rules.foldl (fun r p => r.put p.1 p.2) r

/-- The documents of the files that can be read, under their stems. -/
def documents (fs : Files) (dir : Path) (names : List String) : List (String × Document) :=
  names.filterMap fun name =>
    (fs.document (dir ++ [name])).result?.map fun d => (Path.stem name, d)

/-- The notices on a file: those of reading it, and one if it cannot be opened. -/
def fileNotices (fs : Files) (dir : Path) (name : String) : List Notice :=
  (fs.document (dir ++ [name])).notices ++
    match (fs.document (dir ++ [name])).result with
    | .ok _ => []
    | .error _ => [.fileUnreadable name]

/-- What a loading leaves, behind notices on other files. -/
def behind (ns : List Notice) (loaded : Registry × Reported Registry) :
    Registry × Reported Registry :=
  (loaded.1, ⟨ns ++ loaded.2.notices, loaded.2.result⟩)

theorem behind_behind (ns ms : List Notice) (loaded : Registry × Reported Registry) :
    behind ns (behind ms loaded) = behind (ns ++ ms) loaded := by
  simp only [behind, List.append_assoc]

section
variable {fs : Files} {dir : Path} {names : List String}

theorem documents_cons_of_ok {name : String} {d : Document}
    (h : (fs.document (dir ++ [name])).result = .ok d) :
    documents fs dir (name :: names) = (Path.stem name, d) :: documents fs dir names := by
  simp [documents, Reported.result?, h, Except.toOption]

theorem documents_cons_of_error {name : String} {e : Failure}
    (h : (fs.document (dir ++ [name])).result = .error e) :
    documents fs dir (name :: names) = documents fs dir names := by
  simp [documents, Reported.result?, h, Except.toOption]

/-- A file that can be read leaves its document and its notices. -/
theorem loadAll_cons_of_ok {name : String} {d : Document}
    (h : (fs.document (dir ++ [name])).result = .ok d) (r found : Registry) :
    loadAll fs dir r found (name :: names) =
      behind (fileNotices fs dir name)
        (loadAll fs dir (r.put (Path.stem name) d) (found.put (Path.stem name) d) names) := by
  have hnotices : fileNotices fs dir name = (fs.document (dir ++ [name])).notices := by
    rw [fileNotices, h, List.append_nil]
  simp only [loadAll, h, hnotices, behind]

/-- A file that cannot be opened leaves a notice. -/
theorem loadAll_cons_of_unreadable {name : String} {e : Failure}
    (h : (fs.document (dir ++ [name])).result = .error e) (he : isUnreadable e = true)
    (r found : Registry) :
    loadAll fs dir r found (name :: names) =
      behind (fileNotices fs dir name) (loadAll fs dir r found names) := by
  have hnotices : fileNotices fs dir name =
      (fs.document (dir ++ [name])).notices ++ [.fileUnreadable name] := by
    rw [fileNotices, h]
  simp only [loadAll, h, he, if_true, hnotices, behind, List.append_assoc, List.singleton_append]

/-- Any other file ends the loading. -/
theorem loadAll_cons_of_aborts {name : String} {e : Failure} (h : Aborts fs dir name e)
    (r found : Registry) :
    loadAll fs dir r found (name :: names) =
      (r, ⟨(fs.document (dir ++ [name])).notices, .error e⟩) := by
  simp only [loadAll, h.1, h.2, Bool.false_eq_true, if_false]

/-- **Files none of which ends the loading** leave their documents and their notices, before those of
the rest. -/
theorem loadAll_append (h : ∀ name ∈ names, ∀ e, ¬ Aborts fs dir name e) (r found : Registry)
    (rest : List String) :
    loadAll fs dir r found (names ++ rest) =
      behind (names.flatMap (fileNotices fs dir))
        (loadAll fs dir (r.putAll (documents fs dir names)) (found.putAll (documents fs dir names))
          rest) := by
  induction names generalizing r found with
  | nil => rfl
  | cons name names ih =>
      rw [List.forall_mem_cons] at h
      rw [List.cons_append, List.flatMap_cons, ← behind_behind]
      cases hread : (fs.document (dir ++ [name])).result with
      | ok d =>
          rw [loadAll_cons_of_ok hread, ih h.2, documents_cons_of_ok hread]
          rfl
      | error e =>
          have he : isUnreadable e = true := by
            cases he : isUnreadable e with
            | true => rfl
            | false => exact absurd ⟨hread, he⟩ (h.1 e)
          rw [loadAll_cons_of_unreadable hread he, ih h.2, documents_cons_of_error hread]

end

/-! ### What is found in a registry -/

theorem lookup_pair (k s : String) (d : Document) (rules : List (String × Document)) :
    ((k, d) :: rules).lookup s = if k = s then some d else rules.lookup s := by
  by_cases hs : k = s
  · rw [if_pos hs, hs, List.lookup_cons_self]
  · rw [if_neg hs, List.lookup_cons, beq_eq_false_iff_ne.2 (Ne.symm hs)]

theorem lookup_putRule (id s : String) (d : Document) (rules : List (String × Document)) :
    (putRule id d rules).lookup s = if id = s then some d else rules.lookup s := by
  induction rules with
  | nil => rw [putRule, lookup_pair]
  | cons p rest ih =>
      rw [putRule]
      split
      · next hk =>
        rw [lookup_pair, lookup_pair, hk]
        by_cases hs : id = s
        · rw [if_pos hs, if_pos hs]
        · rw [if_neg hs, if_neg hs, if_neg hs]
      · next hk =>
        rw [lookup_pair, lookup_pair, ih]
        by_cases hs : p.1 = s
        · rw [if_pos hs, if_pos hs, if_neg fun h => hk (hs.trans h.symm)]
        · rw [if_neg hs, if_neg hs]

theorem get?_put (r : Registry) (id s : String) (d : Document) :
    (r.put id d).get? s = if id = s then some d else r.get? s := lookup_putRule id s d r.rules

/-- Of the documents put into a registry under one id the last is found. -/
theorem get?_putAll (r : Registry) (rules : List (String × Document)) (s : String) :
    (r.putAll rules).get? s =
      ((rules.filter (·.1 = s)).map Prod.snd).getLast?.or (r.get? s) :=
  find_foldl_write (f := fun r : Registry => r.get? s) (fun r p => get?_put r p.1 s p.2) r rules

/-- The document of the last file with a stem that can be read. -/
def lastDocument? (fs : Files) (dir : Path) (names : List String) (s : String) : Option Document :=
  ((names.filter (Path.stem · = s)).filterMap fun name =>
    (fs.document (dir ++ [name])).result?).getLast?

/-- The values made of the members of a list under one of their keys are those of the members with that
key. -/
theorem map_snd_filter_filterMap {α β : Type} (key : α → String) (f : α → Option β) (s : String)
    (as : List α) :
    ((as.filterMap fun a => (f a).map fun b => (key a, b)).filter (·.1 = s)).map Prod.snd =
      (as.filter (key · = s)).filterMap f := by
  induction as with
  | nil => rfl
  | cons a r ih => by_cases hs : key a = s <;> cases hf : f a <;> simp [hs, hf, ih]

/-- The documents of files, put into a registry, are found under their stems. -/
theorem get?_putAll_documents (r : Registry) (fs : Files) (dir : Path) (names : List String)
    (s : String) :
    (r.putAll (documents fs dir names)).get? s = (lastDocument? fs dir names s).or (r.get? s) := by
  rw [get?_putAll, documents, map_snd_filter_filterMap, lastDocument?]

/-! ### Loading a directory -/

theorem exists_first_aborts (fs : Files) (dir : Path) (names : List String) :
    (∀ name ∈ names, ∀ e, ¬ Aborts fs dir name e) ∨
      ∃ before name after e, names = before ++ name :: after ∧
        (∀ n ∈ before, ∀ e, ¬ Aborts fs dir n e) ∧ Aborts fs dir name e := by
  induction names with
  | nil => exact .inl nofun
  | cons name names ih =>
      by_cases h : ∃ e, Aborts fs dir name e
      · obtain ⟨e, he⟩ := h
        exact .inr ⟨[], name, names, e, rfl, nofun, he⟩
      · rw [not_exists] at h
        obtain hnone | ⟨before, n, after, e, rfl, hbefore, he⟩ := ih
        · exact .inl (List.forall_mem_cons.2 ⟨h, hnone⟩)
        · exact .inr ⟨name :: before, n, after, e, rfl, List.forall_mem_cons.2 ⟨h, hbefore⟩, he⟩

theorem loadDirectory_eq {fs : Files} {dir : Path} (hdir : fs.find? dir = some .directory)
    (r : Registry) : loadDirectory fs (some dir) r = loadAll fs dir r empty (ruleNames fs dir) := by
  simp only [loadDirectory, hdir]

/-- The rule files of a directory with one file. -/
theorem ruleNames_of_single {fs : Files} {dir : Path} {name : String} (h : fs.names dir = [name])
    (hsuffix : ruleSuffixes.contains (Path.suffix name) = true) : ruleNames fs dir = [name] := by
  rw [ruleNames, h]
  exact List.filter_cons_of_pos hsuffix

/-- A directory with one rule file, which can be read, leaves its document. -/
theorem loadDirectory_of_single {fs : Files} {dir : Path} (hdir : fs.find? dir = some .directory)
    {name : String} {d : Document} (hnames : ruleNames fs dir = [name])
    (hd : (fs.document (dir ++ [name])).result = .ok d) :
    loadDirectory fs (some dir) empty = (⟨[(Path.stem name, d)]⟩,
      ⟨fileNotices fs dir name ++ [.loaded 1], .ok ⟨[(Path.stem name, d)]⟩⟩) := by
  rw [loadDirectory_eq hdir, hnames, loadAll_cons_of_ok hd]
  rfl

/-- Where no file ends the loading, a stem has the document of the last file with that stem that can be
read. -/
theorem loadDirectory_of_not_aborts {fs : Files} {dir : Path}
    (hdir : fs.find? dir = some .directory)
    (hnone : ∀ name ∈ ruleNames fs dir, ∀ e, ¬ Aborts fs dir name e) (r : Registry) :
    ∃ loaded found,
      loadDirectory fs (some dir) r =
        (loaded, ⟨(ruleNames fs dir).flatMap (fileNotices fs dir) ++ [.loaded found.size],
          .ok found⟩) ∧
      ∀ s, found.get? s = lastDocument? fs dir (ruleNames fs dir) s ∧
        loaded.get? s = (found.get? s).or (r.get? s) := by
  have hempty : ∀ s, empty.get? s = none := fun _ => rfl
  have happend := loadAll_append hnone r empty []
  rw [List.append_nil, ← loadDirectory_eq hdir] at happend
  refine ⟨r.putAll (documents fs dir (ruleNames fs dir)),
    empty.putAll (documents fs dir (ruleNames fs dir)), happend, fun s => ⟨?_, ?_⟩⟩
  · rw [get?_putAll_documents, hempty, Option.or_none]
  · rw [get?_putAll_documents, get?_putAll_documents, hempty, Option.or_none]

/-- The first file that ends the loading leaves what the files before it hold. -/
theorem loadDirectory_of_aborts {fs : Files} {dir : Path} (hdir : fs.find? dir = some .directory)
    {before after : List String} {name : String} {e : Failure}
    (hnames : ruleNames fs dir = before ++ name :: after)
    (hbefore : ∀ n ∈ before, ∀ e, ¬ Aborts fs dir n e) (he : Aborts fs dir name e)
    (r : Registry) :
    ∃ loaded,
      loadDirectory fs (some dir) r =
        (loaded, ⟨before.flatMap (fileNotices fs dir) ++ (fs.document (dir ++ [name])).notices,
          .error e⟩) ∧
      ∀ s, loaded.get? s = (lastDocument? fs dir before s).or (r.get? s) := by
  refine ⟨r.putAll (documents fs dir before), ?_, get?_putAll_documents r fs dir before⟩
  rw [loadDirectory_eq hdir, hnames, loadAll_append hbefore, loadAll_cons_of_aborts he, behind]

/-- **Loading an existing directory** ends in one of two ways, whatever its files hold.

- No file in it ends the loading.  Then the loading succeeds, with the notices of each file, and a stem
  is given the document of the last file with that stem that can be read, so that the other files do
  not matter.
- Some file ends the loading, the first such one does, and the files after it are not read, although
  the documents of those before it stay.

A file ends the loading exactly when it is there and has text that cannot be read; one that cannot be
opened, or that stands for the empty document, leaves a notice. -/
theorem loadDirectory_cases {fs : Files} {dir : Path} (hdir : fs.find? dir = some .directory)
    (r : Registry) :
    (((∀ name ∈ ruleNames fs dir, ∀ e, ¬ Aborts fs dir name e) ∧
        ∃ loaded found,
          loadDirectory fs (some dir) r =
            (loaded, ⟨(ruleNames fs dir).flatMap (fileNotices fs dir) ++ [.loaded found.size],
              .ok found⟩) ∧
          ∀ s, found.get? s = lastDocument? fs dir (ruleNames fs dir) s ∧
            loaded.get? s = (found.get? s).or (r.get? s)) ∨
      ∃ before name after e, ruleNames fs dir = before ++ name :: after ∧
        (∀ n ∈ before, ∀ e, ¬ Aborts fs dir n e) ∧ Aborts fs dir name e ∧
        ∃ loaded,
          loadDirectory fs (some dir) r =
            (loaded, ⟨before.flatMap (fileNotices fs dir) ++ (fs.document (dir ++ [name])).notices,
              .error e⟩) ∧
          ∀ s, loaded.get? s = (lastDocument? fs dir before s).or (r.get? s)) ∧
    (∀ name e, Aborts fs dir name e ↔
      isUnreadable e = false ∧
        ∃ bytes, fs.find? (dir ++ [name]) = some (.file bytes) ∧ CannotRead name bytes e) ∧
    ∀ name,
      (∀ d, (fs.document (dir ++ [name])).result = .ok d → d.isEmpty = true →
        .fileEmpty name ∈ fileNotices fs dir name) ∧
      ∀ e, (fs.document (dir ++ [name])).result = .error e →
        .fileUnreadable name ∈ fileNotices fs dir name := by
  refine ⟨?_, fun _ _ => aborts_iff, fun name => ⟨fun d hd hempty => ?_, fun e he => ?_⟩⟩
  · obtain hnone | ⟨before, name, after, e, hnames, hbefore, he⟩ :=
      exists_first_aborts fs dir (ruleNames fs dir)
    · exact .inl ⟨hnone, loadDirectory_of_not_aborts hdir hnone r⟩
    · exact .inr ⟨before, name, after, e, hnames, hbefore, he,
        loadDirectory_of_aborts hdir hnames hbefore he r⟩
  · exact List.mem_append_left _ (fileEmpty_mem_document hd hempty)
  · rw [fileNotices, he]
    exact List.mem_append_right _ (List.mem_singleton_self _)

end Registry

namespace Sample

/-- A directory with a file that is not UTF-8, and a file with rules after it. -/
def mixed : Files :=
  ⟨[(["a.json"], .file [0xff]),
    (["b.json"], .file "\x7b\"groups\":[\x7b\"id\":\"g\"\x7d]\x7d".toUTF8.toList)]⟩

theorem ruleNames_mixed : Registry.ruleNames mixed [] = ["a.json", "b.json"] := by
  have hsorted : mixed.names [] = ["a.json", "b.json"] :=
    List.mergeSort_of_pairwise (l := ["a.json", "b.json"]) (by decide +kernel)
  rw [Registry.ruleNames, hsorted]
  decide +kernel

theorem aborts_mixed : Registry.Aborts mixed [] "a.json" .notUtf8 := ⟨rfl, rfl⟩

/-- The first file ends the loading, and the document of the second one is not found. -/
theorem loadDirectory_mixed :
    mixed.find? [] = some .directory ∧
      (mixed.document ["b.json"]).result?.map (fun d => d.groups.map (·.id)) = some ["g"] ∧
      (Registry.loadDirectory mixed (some []) .empty).2.result = .error .notUtf8 ∧
      (Registry.loadDirectory mixed (some []) .empty).1.get? "b" = none := by
  have hdir : mixed.find? [] = some .directory := rfl
  have hrules : (mixed.document ["b.json"]).result?.map (fun d => d.groups.map (·.id)) =
      some ["g"] := by decide +kernel
  refine ⟨hdir, hrules, ?_⟩
  obtain ⟨⟨hnone, -⟩ | ⟨before, name, after, e, hsplit, hbefore, he, loaded, hload, hget⟩, -⟩ :=
    Registry.loadDirectory_cases hdir .empty
  · exact absurd aborts_mixed (hnone _ (ruleNames_mixed ▸ List.mem_cons_self) _)
  · rw [ruleNames_mixed] at hsplit
    cases before with
    | nil =>
        obtain ⟨rfl, -⟩ := List.cons.inj hsplit
        obtain rfl := Except.error.inj (aborts_mixed.1.symm.trans he.1)
        rw [hload]
        exact ⟨rfl, hget "b"⟩
    | cons n before =>
        obtain ⟨rfl, -⟩ := List.cons.inj hsplit
        exact absurd aborts_mixed (hbefore _ List.mem_cons_self _)

end Sample

end Verdict
