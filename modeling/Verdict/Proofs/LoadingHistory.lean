/-
# The history of a registry

Whatever is loaded into a registry, and whenever, files are read: one that is loaded is, and in a
directory all rule files are, in the order of their names, up to the first that ends the loading.

| question | answer |
| --- | --- |
| what does an id find? | the document of the last reading under this id that did not fail |
| where does an id stand? | where the first reading under it put it, for good |

So the registry is told by these readings (`Loading.registry_after`), whatever else has happened, and
the main result puts this together with what a loading answers (`registry_of_history`).
-/

import Verdict.Proofs.RegistryOrder
import Verdict.Registry.Loading

namespace Verdict

/-! ### Readings -/

/-- A reading of a file: its path, and the files as they were then. -/
structure Reading where
  files : Files
  path : Path

namespace Reading

/-- What a reading gives: the document that the file held then, or a failure. -/
def document (r : Reading) : Reported Document := r.files.document r.path

/-- The id under which a reading puts its document. -/
def id (r : Reading) : String := Path.stem r.path.name

/-- What a reading puts into a registry. -/
def entry? (r : Reading) : Option (String × Document) := r.document.result?.map fun d => (r.id, d)

/-- The readings of files in a directory. -/
def inDirectory (fs : Files) (dir : Path) (names : List String) : List Reading :=
  names.map fun name => ⟨fs, dir ++ [name]⟩

/-- The readings that loading a directory makes, if it is one. -/
def ofLoading (fs : Files) : Option Path → List Reading
  | none => []
  | some dir =>
    if fs.find? dir = some .directory then
      inDirectory fs dir (Registry.namesRead fs dir (Registry.ruleNames fs dir))
    else []

/-- The document of the last reading under an id that did not fail. -/
def last? (readings : List Reading) (id : String) : Option Document :=
  ((readings.filter (·.id = id)).filterMap (·.document.result?)).getLast?

theorem id_inDirectory (fs : Files) (dir : Path) (name : String) :
    id ⟨fs, dir ++ [name]⟩ = Path.stem name := congrArg Path.stem (Registry.name_concat dir name)

theorem filterMap_entry?_inDirectory (fs : Files) (dir : Path) (names : List String) :
    (inDirectory fs dir names).filterMap entry? = Registry.documents fs dir names := by
  rw [inDirectory, List.filterMap_map, Registry.documents]
  refine List.filterMap_congr fun name _ => ?_
  rw [Function.comp_apply, entry?, id_inDirectory]
  rfl

/-- Readings put into a registry are found under their ids. -/
theorem get?_putAll_entries (r : Registry) (readings : List Reading) (id : String) :
    (r.putAll (readings.filterMap entry?)).get? id = (last? readings id).or (r.get? id) := by
  rw [Registry.get?_putAll]
  exact congrArg (fun ds : List Document => ds.getLast?.or (r.get? id))
    (Registry.map_snd_filter_filterMap Reading.id (fun r => r.document.result?) id readings)

theorem loadFile_fst (r : Registry) (fs : Files) (p : Path) :
    (r.loadFile fs p).1 = r.putAll ([(⟨fs, p⟩ : Reading)].filterMap entry?) := by
  cases h : (fs.document p).result <;>
    simp [Registry.loadFile, Registry.putAll, entry?, document, id, Reported.result?,
      Except.toOption, h]

theorem loadDirectory_fst (r : Registry) (fs : Files) (dir : Option Path) :
    (r.loadDirectory fs dir).1 = r.putAll ((ofLoading fs dir).filterMap entry?) := by
  cases dir with
  | none => rfl
  | some p =>
      by_cases h : fs.find? p = some .directory
      · rw [Registry.loadDirectory_eq h, Registry.loadAll_fst, ofLoading, if_pos h,
          filterMap_entry?_inDirectory]
      · rw [ofLoading, if_neg h]
        exact Registry.loadDirectory_of_not_directory r fun q hq => Option.some.inj hq ▸ h

end Reading

namespace Loading

/-- The readings that an event makes. -/
def readings (s : Loading) : Event → List Reading
  | .loadFile path => [⟨s.files, path⟩]
  | .loadDirectory path => Reading.ofLoading s.files (path.or s.directory)
  | _ => []

/-- The readings that some events make. -/
def history (s : Loading) : List Event → List Reading
  | [] => []
  | e :: r => s.readings e ++ (s.step e).1.history r

/-! ### One event -/

variable (s : Loading)

theorem directory_step (e : Event) : (s.step e).1.directory = s.directory := by cases e <;> rfl

theorem distinct_files_step {s : Loading} (h : s.files.Distinct) (e : Event) :
    (s.step e).1.files.Distinct := by
  cases e with
  | write path node => exact h.write path node
  | remove path => exact h.remove path
  | _ => exact h

/-- **An event puts its readings into the registry,** one after the other, and changes nothing else in
it. -/
theorem registry_step (e : Event) :
    (s.step e).1.registry = s.registry.putAll ((s.readings e).filterMap Reading.entry?) := by
  cases e with
  | loadFile path => exact Reading.loadFile_fst ..
  | loadDirectory path => exact Reading.loadDirectory_fst ..
  | _ => rfl

/-- A file whose loading fails leaves everything as it was. -/
theorem step_of_loadFile_error {path : Path} {e : Failure}
    (h : (s.registry.loadFile s.files path).2.result = .error e) :
    (s.step (.loadFile path)).1 = s := by
  have hread : (s.files.document path).result = .error e := by
    rw [← h]
    unfold Registry.loadFile
    dsimp only
    split <;> rfl
  simp only [step, Registry.loadFile, hread]

/-! ### Many events -/

theorem directory_after (events : List Event) : (s.after events).directory = s.directory := by
  induction events generalizing s with
  | nil => rfl
  | cons e r ih => exact (ih (s.step e).1).trans (s.directory_step e)

theorem distinct_files_after {s : Loading} (h : s.files.Distinct) (events : List Event) :
    (s.after events).files.Distinct := by
  induction events generalizing s with
  | nil => exact h
  | cons e r ih => exact ih (s.distinct_files_step h e)

/-- **The registry is told by its history:** the readings of all events are put into it, one after the
other. -/
theorem registry_after (events : List Event) :
    (s.after events).registry = s.registry.putAll ((s.history events).filterMap Reading.entry?) := by
  induction events generalizing s with
  | nil => rfl
  | cons e r ih =>
      rw [history, List.filterMap_append, Registry.putAll, List.foldl_append]
      change ((s.step e).1.after r).registry = (s.registry.putAll _).putAll _
      rw [ih, registry_step]

end Loading

/-! ### Loading a directory -/

namespace Reading

theorem isSome_last?_iff {readings : List Reading} {id : String} :
    (last? readings id).isSome = true ↔
      ∃ r ∈ readings, r.id = id ∧ ∃ d, r.document.result = .ok d := by
  rw [last?, List.getLast?_isSome, Ne, List.eq_nil_iff_forall_not_mem]
  simp only [not_forall, not_not, List.mem_filterMap, List.mem_filter, decide_eq_true_eq,
    Reported.result?_eq_some_iff]
  constructor
  · rintro ⟨d, r, ⟨hr, hid⟩, hd⟩
    exact ⟨r, hr, hid, d, hd⟩
  · rintro ⟨r, hr, hid, d, hd⟩
    exact ⟨d, r, ⟨hr, hid⟩, hd⟩

/-- Whether readings and the documents found are those of a directory: all rule files in it were read,
in the order of their names, an id has what the last of its files has that can be read, and only the
ids of such files are found. -/
structure Complete (readings : List Reading) (fs : Files) (dir : Path) (found : Registry) : Prop where
  directory : fs.find? dir = some .directory
  visited : ∃ names, readings = inDirectory fs dir names ∧ names.Pairwise (· < ·) ∧
    ∀ name, name ∈ names ↔
      Path.suffix name ∈ ruleSuffixes ∧ (fs.find? (dir ++ [name])).isSome = true
  last : ∀ id, found.get? id = last? readings id
  nodup : found.ids.Nodup
  ids : ∀ id, id ∈ found.ids ↔ ∃ r ∈ readings, r.id = id ∧ ∃ d, r.document.result = .ok d

/-- **A loading of a directory that returns is complete.** -/
theorem complete_of_loadDirectory {fs : Files} (hfs : fs.Distinct) {dir : Option Path}
    {r found : Registry} (h : (r.loadDirectory fs dir).2.result = .ok found) :
    ∃ p, dir = some p ∧ Complete (ofLoading fs dir) fs p found := by
  cases dir with
  | none => cases h
  | some p =>
      have hdir : fs.find? p = some .directory := by
        unfold Registry.loadDirectory at h
        dsimp only at h
        split at h
        · cases h
        · cases h
        · assumption
      have hnone : ∀ name ∈ Registry.ruleNames fs p, ∀ e, ¬ Registry.Aborts fs p name e := by
        obtain hnone | ⟨before, name, after, e, hnames, hbefore, he⟩ :=
          Registry.exists_first_aborts fs p (Registry.ruleNames fs p)
        · exact hnone
        · obtain ⟨_, hload, -⟩ := Registry.loadDirectory_of_aborts hdir hnames hbefore he r
          rw [hload] at h
          cases h
      -- As nothing ends the loading, the documents found are those of all the files.
      have hall := Registry.loadAll_append hnone r .empty []
      rw [List.append_nil, ← Registry.loadDirectory_eq hdir] at hall
      rw [hall] at h
      obtain rfl := Except.ok.inj h
      have hread : ofLoading fs (some p) = inDirectory fs p (Registry.ruleNames fs p) := by
        rw [ofLoading, if_pos hdir, Registry.namesRead_eq_self fs p hnone]
      have hlast : ∀ id, (Registry.empty.putAll
          (Registry.documents fs p (Registry.ruleNames fs p))).get? id =
            last? (ofLoading fs (some p)) id := fun id => by
        rw [hread, ← filterMap_entry?_inDirectory, get?_putAll_entries]
        exact Option.or_none
      refine ⟨p, rfl, hdir, ⟨_, hread, Registry.pairwise_ruleNames hfs p,
        fun name => Registry.mem_ruleNames hdir⟩, hlast,
        Registry.nodup_ids_putAll (r := .empty) List.nodup_nil _, fun id => ?_⟩
      rw [← Registry.isSome_get?_iff, hlast, isSome_last?_iff]

end Reading

/-- **A registry is told by what was read into it.**  Let anything have happened to it since it had no
documents.  Then

* an id finds the document of the last reading under it that did not fail, as the file was at that
  moment;
* no id stands twice, and whatever happens later the ids stay, in their places;
* a file whose loading fails changes nothing;
* a loading of a directory that returns has read all the rule files in it, in the order of their names,
  answers with the documents of those that can be read, and each of these is found afterwards;
* the order in which the file system lists the files is of no account for it;
* the ids are answered in the order of their characters, and only what is none of them finds nothing. -/
theorem registry_of_history {fs : Files} (hfs : fs.Distinct) (dir : Option Path)
    (events : List Loading.Event) :
    let start := Loading.start fs dir
    let s := start.after events
    (∀ id, (s.step (.find id)).2 = some (.found (Reading.last? (start.history events) id))) ∧
      (s.registry.ids.Nodup ∧ ∀ more, s.registry.ids <+: (s.after more).registry.ids) ∧
      (∀ path read e, (s.step (.loadFile path)).2 = some (.file read) → read.result = .error e →
        (s.step (.loadFile path)).1 = s) ∧
      (∀ path read found, (s.step (.loadDirectory path)).2 = some (.directory read) →
        read.result = .ok found →
          (∃ p, path.or dir = some p ∧
            Reading.Complete (s.readings (.loadDirectory path)) s.files p found) ∧
          ∀ id d, found.get? id = some d →
            ((s.step (.loadDirectory path)).1.step (.find id)).2 = some (.found (some d))) ∧
      (∀ path (listed : Files), listed.Relists s.files →
        let other := ({ s with files := listed } : Loading).step (.loadDirectory path)
        other.1.registry = (s.step (.loadDirectory path)).1.registry ∧
          other.2 = (s.step (.loadDirectory path)).2) ∧
      ∃ ids, (s.step .ids).2 = some (.ids ids) ∧ ids.Pairwise (· < ·) ∧ ids.Perm s.registry.ids ∧
        ∀ id, (s.step (.find id)).2 = some (.found none) ↔ id ∉ ids := by
  intro start s
  have hdir : s.directory = dir := start.directory_after events
  have hdistinct : s.files.Distinct := start.distinct_files_after hfs events
  have hregistry := start.registry_after events
  have hids : s.registry.ids.Nodup :=
    hregistry ▸ Registry.nodup_ids_putAll (r := .empty) List.nodup_nil _
  refine ⟨fun id => ?_, ⟨hids, fun more => ?_⟩, ?_, ?_, ?_, ?_⟩
  · refine congrArg (fun found => some (Loading.Answer.found found)) ?_
    rw [hregistry, Reading.get?_putAll_entries]
    exact Option.or_none
  · rw [s.registry_after more]
    exact Registry.ids_prefix_putAll _ _
  · rintro path read e ⟨⟩ he
    exact s.step_of_loadFile_error he
  · rintro path read found ⟨⟩ hfound
    obtain ⟨p, hp, hcomplete⟩ := Reading.complete_of_loadDirectory hdistinct hfound
    refine ⟨⟨p, hdir ▸ hp, hcomplete⟩, fun id d hd => ?_⟩
    refine congrArg (fun found => some (Loading.Answer.found found)) ?_
    have hread : Reading.last? (s.readings (.loadDirectory path)) id = some d :=
      (hcomplete.last id).symm.trans hd
    rw [s.registry_step, Reading.get?_putAll_entries, hread]
    rfl
  · intro path listed hlisted other
    have hsame := hlisted.loadDirectory_eq hdistinct (path.or s.directory) s.registry
    exact ⟨congrArg Prod.fst hsame,
      congrArg (fun loaded : Registry × Reported Registry =>
        some (Loading.Answer.directory loaded.2)) hsame⟩
  · refine ⟨_, rfl, Registry.pairwise_sortedIds hids, s.registry.perm_sortedIds, fun id => ?_⟩
    rw [s.registry.perm_sortedIds.mem_iff, ← Registry.get?_eq_none_iff]
    exact ⟨fun h => Loading.Answer.found.inj (Option.some.inj h), fun h => h ▸ rfl⟩

namespace Sample

/-- A directory with a rule file, and a directory named like one. -/
def ruleFiles : Files :=
  ⟨[(["a.json"], .file "\x7b\"groups\":[\x7b\"id\":\"g\"\x7d]\x7d".toUTF8.toList), (["b.json"], .directory)]⟩

/-- The hypothesis of `registry_of_history` is satisfiable: a file with a group that has been loaded with its
directory is found after it has gone, and loading it once more changes nothing. -/
theorem registry_of_history_removed :
    let s := (Loading.start ruleFiles (some [])).after [.loadDirectory none, .remove ["a.json"]]
    ∃ d, d.groups.map (·.id) = ["g"] ∧ (s.step (.find "a")).2 = some (.found (some d)) ∧
      (s.step (.loadFile ["a.json"])).1 = s := by
  have hdocument : (ruleFiles.document ["a.json"]).result?.map (fun d => d.groups.map (·.id)) =
      some ["g"] := by decide +kernel
  obtain ⟨d, hd, hgroups⟩ := Option.map_eq_some_iff.mp hdocument
  have hnames : Registry.ruleNames ruleFiles [] = ["a.json", "b.json"] := by
    have hsorted : ruleFiles.names [] = ["a.json", "b.json"] :=
      List.mergeSort_of_pairwise (l := ["a.json", "b.json"]) (by decide +kernel)
    rw [Registry.ruleNames, hsorted]
    decide +kernel
  have hread : Registry.namesRead ruleFiles [] ["a.json", "b.json"] = ["a.json", "b.json"] := by
    rw [Registry.namesRead, List.nil_append, Reported.result?_eq_some_iff.mp hd]
    rfl
  have hreadings : Reading.ofLoading ruleFiles (some []) =
      [⟨ruleFiles, ["a.json"]⟩, ⟨ruleFiles, ["b.json"]⟩] := by
    rw [Reading.ofLoading, if_pos (show ruleFiles.find? [] = some .directory from rfl), hnames, hread]
    rfl
  have hhistory : (Loading.start ruleFiles (some [])).history
      [.loadDirectory none, .remove ["a.json"]] = _ := congrArg (· ++ []) hreadings
  have hlast : Reading.last? [⟨ruleFiles, ["a.json"]⟩, ⟨ruleFiles, ["b.json"]⟩] "a" = some d := by
    have ha : Reading.id ⟨ruleFiles, ["a.json"]⟩ = "a" := by decide +kernel
    have hb : Reading.id ⟨ruleFiles, ["b.json"]⟩ ≠ "a" := by decide +kernel
    simp [Reading.last?, ha, hb, Reading.document, hd]
  obtain ⟨hfind, -, hfails, -⟩ :=
    registry_of_history (show ruleFiles.Distinct by decide) (some [])
      [.loadDirectory none, .remove ["a.json"]]
  rw [hhistory, List.append_nil] at hfind
  exact ⟨d, hgroups, (hfind "a").trans (congrArg (some ∘ Loading.Answer.found) hlast),
    hfails ["a.json"] _ (.fileMissing "a.json") rfl rfl⟩

end Sample

end Verdict
