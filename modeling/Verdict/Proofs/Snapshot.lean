/-
# The registry between reloads

The service reads its registry when it starts, and again when it is asked to.  In between the registry
stays as it is, whatever happens to the files and whatever else is asked.  So the answers about rules
come from the directory as it was at the last reading (`registry_is_snapshot`).

| reading the directory | the registry afterwards |
| --- | --- |
| completes | the documents of all its files that can be opened |
| finds no directory | none |
| is ended by a file | the documents of the files before that one, in the order of the names |

The last row says that the service does not keep the registry that it had before a reading that fails
(`registry_after_failed_reload`).
-/

import Verdict.Proofs.Endpoints
import Verdict.Proofs.RegistryOrder

namespace Verdict

/-! ### Reading a registry from a directory -/

namespace Registry

/-- What a registry without documents becomes by loading a directory. -/
def fresh (fs : Files) (dir : Option Path) : Registry := (empty.loadDirectory fs dir).1

variable {fs : Files} {dir : Option Path}

theorem nodup_ids_fresh (fs : Files) (dir : Option Path) : (fresh fs dir).ids.Nodup :=
  nodup_ids_loadDirectory (r := empty) List.nodup_nil fs dir

/-- What is left of a loading that fails: no documents where there is no directory, and otherwise those
of the files before the first that ends it. -/
theorem fresh_of_load_error {e : Failure} (h : (empty.loadDirectory fs dir).2.result = .error e) :
    (∀ p, dir = some p → fs.find? p ≠ some .directory) ∧ fresh fs dir = empty ∨
      ∃ p before name after, dir = some p ∧ fs.find? p = some .directory ∧
        ruleNames fs p = before ++ name :: after ∧
        (∀ n ∈ before, ∀ e, ¬ Aborts fs p n e) ∧ Aborts fs p name e ∧
        ∀ id, (fresh fs dir).get? id = lastDocument? fs p before id := by
  by_cases hdir : ∃ p, dir = some p ∧ fs.find? p = some .directory
  · obtain ⟨p, rfl, hp⟩ := hdir
    refine Or.inr ?_
    obtain hnone | ⟨before, name, after, e', hnames, hbefore, haborts⟩ :=
      exists_first_aborts fs p (ruleNames fs p)
    · obtain ⟨_, _, hok, -⟩ := loadDirectory_of_not_aborts hp hnone empty
      rw [hok] at h
      cases h
    · obtain ⟨_, hload, hget⟩ := loadDirectory_of_aborts hp hnames hbefore haborts empty
      rw [hload] at h
      obtain rfl := Except.error.inj h
      refine ⟨p, before, name, after, rfl, hp, hnames, hbefore, haborts, fun id => ?_⟩
      rw [fresh, hload]
      exact (hget id).trans Option.or_none
  · have hnone : ∀ p, dir = some p → fs.find? p ≠ some .directory := fun p hp hf => hdir ⟨p, hp, hf⟩
    exact Or.inl ⟨hnone, loadDirectory_of_not_directory empty hnone⟩

end Registry

namespace Service

variable {fs : Files} {dir : Option Path}

theorem readRegistry_fst (fs : Files) (dir : Option Path) :
    (readRegistry fs dir).1 = Registry.fresh fs dir := by
  unfold readRegistry
  dsimp only
  split
  · rfl
  · split <;> rfl

/-- A reading that fails is a loading that fails. -/
theorem load_of_read_error {e : Failure} (h : (readRegistry fs dir).2.result = .error e) :
    (Registry.empty.loadDirectory fs dir).2.result = .error e := by
  unfold readRegistry at h
  dsimp only at h
  split at h
  · cases h
  · next hload =>
    split at h
    · cases h
    · exact hload.trans (congrArg Except.error (Except.error.inj h))

theorem result_reload (s : Service) (fs : Files) :
    (s.reload fs).2.result =
      (readRegistry fs s.directory).2.result.map fun _ =>
        .ok (reloaded (Registry.fresh fs s.directory)) := by
  rw [reload_eq, ← readRegistry_fst, Reported.result_andThen]
  cases (readRegistry fs s.directory).2.result <;> rfl

/-- A reload that fails is a reading that fails. -/
theorem read_of_reload_error {s : Service} {fs : Files} {e : Failure}
    (h : (s.reload fs).2.result = .error e) : (readRegistry fs s.directory).2.result = .error e := by
  rw [result_reload] at h
  cases hread : (readRegistry fs s.directory).2.result with
  | ok u =>
      rw [hread] at h
      cases h
  | error e' =>
      rw [hread] at h
      exact congrArg Except.error (Except.error.inj h)

end Service

/-! ### A session between reloads -/

namespace Session

/-- The files after an event: a request leaves them as they are. -/
def Event.change (fs : Files) : Event → Files
  | .call _ => fs
  | .write path node => fs.write path node
  | .remove path => fs.remove path

/-- The files as they were when the registry was last read: at the last reload among some events, which
begin with given files, or else before them. -/
def filesRead (read now : Files) : List Event → Files
  | [] => read
  | e :: r => filesRead (if e.reloads then now else read) (e.change now) r

variable (s : Session) (e : Event)

theorem files_step : (s.step e).1.files = e.change s.files := by cases e <;> rfl

variable {s e}

theorem step_of_reloads {r : Request} (h : r.reloads = true) :
    s.step (.call r) =
      (⟨(s.service.reload s.files).1, s.files⟩, some (s.service.reload s.files).2) := by
  rw [step, s.service.handle_of_reloads s.files h]

/-- A reload makes the registry anew from the files as they are, whether it returns or not. -/
theorem registry_of_reloads {r : Request} (h : r.reloads = true) :
    (s.step (.call r)).1.service.registry = Registry.fresh s.files s.service.directory := by
  rw [step_of_reloads h, Service.reload_eq]
  exact Service.readRegistry_fst ..

section
variable (hs : s.service.Ready)
include hs

/-- **Each event leaves the registry as it was, or makes it anew** from the files as they are. -/
theorem registry_step : (s.step e).1.service.registry =
    if e.reloads then Registry.fresh s.files s.service.directory else s.service.registry := by
  split
  · next h =>
    cases e with
    | call r => exact registry_of_reloads h
    | write path node => cases h
    | remove path => cases h
  · next h => exact (keeps_step hs (Bool.eq_false_iff.mpr h)).registry

/-- **The registry of a session** is what a registry without documents becomes by loading the directory
as it was at the last reading, whether that completed or not. -/
theorem registry_after {read : Files}
    (h : s.service.registry = Registry.fresh read s.service.directory) (events : List Event) :
    (s.after events).service.registry =
      Registry.fresh (filesRead read s.files events) s.service.directory := by
  induction events generalizing s read with
  | nil => exact h
  | cons e r ih =>
      have hstep := becomes_step hs e
      rw [← hstep.directory, filesRead, ← s.files_step e]
      refine ih hstep.ready ?_
      rw [registry_step hs, hstep.directory]
      split
      · rfl
      · exact h

end

namespace Started

variable {fs : Files} {dir : Option Path} {env : Environment} {start : Session}

end Started

end Session

/-! ### Answers about a registry -/

/-- Whether entries list a registry: each document once, in the order of the ids. -/
structure Registry.ListedBy (r : Registry) (entries : List (String × Document)) : Prop where
  ascending : (entries.map (·.1)).Pairwise (· < ·)
  registered : ∀ id d, (id, d) ∈ entries ↔ r.get? id = some d
  size : entries.length = r.size

theorem Registry.listedBy_sorted {r : Registry} (h : r.ids.Nodup) : r.ListedBy r.sorted where
  ascending := pairwise_sorted h
  registered _ _ := r.perm_sorted.mem_iff.trans (mem_rules_iff h)
  size := r.perm_sorted.length_eq

namespace Session

/-- What is asked of the registry alone leaves the session as it is. -/
theorem step_of_asks {s : Session} {r : Request} {method : String} {route : Service.Route}
    {answer : Registry → Reported Response} (hready : s.service.Ready) (h : r.Asks method route)
    (hm : method ≠ "HEAD")
    (hroute : s.service.respond s.files r method route = s.service.fromRegistry s.files answer) :
    s.step (.call r) = (s, some (answer s.service.registry)) := by
  rw [step, s.service.handle_of_asks s.files h hm, hroute, Service.fromRegistry_of_ready s.files hready]

/-- Whether a session answers from a registry whatever is asked about registered rules: for their list, for
one of them, and, in requests of some kind, for an evaluation or an assessment by one of them. -/
structure Serves (s : Session) (registry : Registry) (posted : Request → Prop) : Prop where
  list : ∀ r : Request, r.Asks "GET" .rules → ∃ entries, registry.ListedBy entries ∧
    s.step (.call r) = (s, some (.done (.ok (.object
      [("rules", .list (entries.map fun e => Service.ruleInfo e.1 e.2)),
        ("total", .int entries.length)]))))
  rule : ∀ (r : Request) (id : String), r.Asks "GET" (.rule id) →
    s.step (.call r) = (s, some (Service.ruleDetail registry id))
  evaluate : ∀ (r : Request) (form : EvaluationForm) (id : String), posted r →
    r.Posts .evaluate EvaluationForm.ofFields? form → form.named? = some id →
      ∃ t answer, s.step (.call r) = (t, some answer) ∧ s.Keeps t ∧
        form.AnsweredBy registry (s.service.settings.evaluation form) answer.result
  assess : ∀ (r : Request) (form : AssessmentForm) (id : String), posted r →
    r.Posts .eligibility AssessmentForm.ofFields? form → form.evaluation.named? = some id →
      ∃ t answer, s.step (.call r) = (t, some answer) ∧ s.Keeps t ∧
        form.evaluation.AnsweredBy registry (s.service.settings.assessment form) answer.result

/-- **A session answers from its registry.** -/
theorem serves {s : Session} {registry : Registry} (hready : s.service.Ready)
    (hs : s.service.registry = registry) (hids : registry.ids.Nodup) (posted : Request → Prop) :
    s.Serves registry posted where
  list r h := by
    refine ⟨registry.sorted, Registry.listedBy_sorted hids, ?_⟩
    rw [step_of_asks hready h (by decide) rfl, registry.perm_sorted.length_eq, hs]
    rfl
  rule r id h := by rw [step_of_asks hready h (by decide) rfl, hs]
  evaluate r form id _ h hid := hs ▸ answers_evaluate hready h (.of_named? hid)
  assess r form id _ h hid := hs ▸ answers_assess hready h (.of_named? hid)

end Session

namespace Sample

/-- A request that asks for the registry to be read anew. -/
def reloading : Request := ⟨"POST", "/rules/reload", none, []⟩

theorem reloads_reloading : reloading.reloads = true := by decide +kernel

end Sample

/-- **A reload that fails leaves what was read before the failure,** and nothing of the registry before
it.  Until the next reload the session answers from this registry, which

* has no documents, if the path of the directory does not lead to one;
* and otherwise has those of the files before the first that ends the loading, in the order of their
  names: each stem is given the last document among these files, and the files behind are not read. -/
theorem registry_after_failed_reload {fs : Files} {dir : Option Path} {env : Environment}
    {start : Session} (hstart : Session.start fs dir env = .ok start) (events : List Session.Event)
    {r : Request} (hr : r.reloads = true) {answer : Reported Response} {e : Failure}
    (hanswer : ((start.after events).step (.call r)).2 = some answer)
    (he : answer.result = .error e) :
    let s := start.after events
    let registry := Registry.fresh s.files dir
    (∀ later : List Session.Event, (∀ e ∈ later, e.reloads = false) →
        ((s.step (.call r)).1.after later).Serves registry fun _ => True) ∧
      ((∀ p, dir = some p → s.files.find? p ≠ some .directory) ∧ registry = .empty ∨
        ∃ p before name after, dir = some p ∧ s.files.find? p = some .directory ∧
          Registry.ruleNames s.files p = before ++ name :: after ∧
          (∀ n ∈ before, ∀ e, ¬ Registry.Aborts s.files p n e) ∧ Registry.Aborts s.files p name e ∧
          ∀ id, registry.get? id = Registry.lastDocument? s.files p before id) := by
  intro s registry
  have hstarted := Session.started_of_start hstart
  obtain rfl := hstarted.files
  obtain rfl := hstarted.directory
  have hafter := Session.becomes_after hstarted.ready events
  have hdir : s.service.directory = start.service.directory := hafter.directory
  have hready := (Session.becomes_step hafter.ready (.call r)).ready
  rw [Session.step_of_reloads hr] at hanswer
  obtain rfl := Option.some.inj hanswer
  have hload := Service.load_of_read_error (Service.read_of_reload_error he)
  rw [hdir] at hload
  refine ⟨fun later hlater => ?_, Registry.fresh_of_load_error hload⟩
  have hkeeps := Session.keeps_after hready hlater
  refine Session.serves hkeeps.ready ?_ (Registry.nodup_ids_fresh _ _) _
  rw [hkeeps.registry, Session.registry_of_reloads hr, hdir]

namespace Sample

/-- A directory with one rule file. -/
def single : Files :=
  ⟨[(["b.json"], .file "\x7b\"groups\":[\x7b\"id\":\"g\"\x7d]\x7d".toUTF8.toList)]⟩

/-- A request for the rule of this file. -/
def showing : Request := ⟨"GET", "/rules/b", none, []⟩

/-- What is read before the file that is not UTF-8. -/
theorem loaded_mixed :
    ∃ left notices, Registry.loadDirectory mixed (some []) .empty = (left, ⟨notices, .error .notUtf8⟩) ∧
      left.get? "b" = none := by
  have hdir : mixed.find? [] = some .directory := rfl
  have hnames : Registry.ruleNames mixed [] = [] ++ "a.json" :: ["b.json"] := ruleNames_mixed
  obtain ⟨left, hload, hnone⟩ := Registry.loadDirectory_of_aborts hdir hnames (List.forall_mem_nil _)
    aborts_mixed .empty
  exact ⟨left, _, hload, hnone "b"⟩

/-- The hypotheses of `registry_after_failed_reload` are satisfiable: a file that is not UTF-8 comes
before the one with rules, which are there at the start and are not found after the reload. -/
theorem registry_after_failed_reload_mixed :
    ∃ start, Session.start single (some []) [] = .ok start ∧
      (start.service.registry.get? "b").map (fun d => d.groups.map (·.id)) = some ["g"] ∧
      ∃ answer, let s := start.after [.write ["a.json"] (.file [0xff])]
        (s.step (.call reloading)).2 = some answer ∧ answer.result = .error .notUtf8 ∧
          ((s.step (.call reloading)).1.step (.call showing)).2 = some (.done (.noRule "b")) := by
  have hdocument : (single.document ["b.json"]).result?.map (fun d => d.groups.map (·.id)) =
      some ["g"] := by decide +kernel
  obtain ⟨d, hd, hgroups⟩ := Option.map_eq_some_iff.mp hdocument
  have hd := Reported.result?_eq_some_iff.mp hd
  have hnames : Registry.ruleNames single [] = ["b.json"] :=
    Registry.ruleNames_of_single (List.mergeSort_singleton "b.json") (by decide +kernel)
  have hstem : Path.stem "b.json" = "b" := by decide +kernel
  have hdir : single.find? [] = some .directory := rfl
  have hload := Registry.loadDirectory_of_single hdir hnames hd
  rw [hstem] at hload
  let service : Service := { Service.made plainSettings (some []) with loaded := some ⟨[("b", d)]⟩ }
  have hstart : Session.start single (some []) [] = .ok ⟨service, single⟩ :=
    Session.start_of_load rfl hload
  refine ⟨_, hstart, congrArg some hgroups, ?_⟩
  -- Written into the directory, the file that is not UTF-8 makes it the mixed one.
  obtain ⟨left, notices, hfails, hnone⟩ := loaded_mixed
  have hreload : (service.reload mixed).2.result = .error .notUtf8 := by
    rw [Service.result_reload, Service.readRegistry, show service.directory = some [] from rfl]
    simp only [hfails]
    rfl
  have hstep : (Session.step ⟨service, mixed⟩ (.call reloading)).2 = some (service.reload mixed).2 := by
    rw [Session.step_of_reloads reloads_reloading]
  obtain ⟨hserves, -⟩ := registry_after_failed_reload hstart [.write ["a.json"] (.file [0xff])]
    reloads_reloading hstep hreload
  refine ⟨_, hstep, hreload, ?_⟩
  have hshowing : showing.Asks "GET" (.rule "b") := ⟨rfl, by decide +kernel, _, rfl, by decide +kernel⟩
  have hshown := (hserves [] (List.forall_mem_nil _)).rule showing "b" hshowing
  have hdetail : Service.ruleDetail (Registry.fresh mixed (some [])) "b" = .done (.noRule "b") := by
    rw [Service.ruleDetail, Registry.fresh, hfails, hnone]
  exact (congrArg Prod.snd hshown).trans (congrArg some hdetail)

end Sample

end Verdict
