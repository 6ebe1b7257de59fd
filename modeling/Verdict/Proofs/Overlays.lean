/-
# Catalogues that are shared

Nothing that happens to catalogues changes one that there is (`Catalogues.isPrefix_step`): overlays and
calls with labels make catalogues of their own.  So an evaluator answers every call as if it were the first
(`Catalogues.answer_eq`), and a catalogue that was made describes its tokens for good.

Catalogues that are laid over one another find what a single catalogue of all their entries finds
(`Labels.get?_overlaid`).  The entries of an upper catalogue come last, also where a lower one has the very
spelling of one of them, and another spelling behind it.
-/

import Verdict.Evaluation.Catalogues
import Verdict.Proofs.Completion

namespace Verdict

/-! ### Catalogues over one another -/

theorem Keyed.get?_ofList_append {α : Type} (ps qs : List (String × α)) (name : String) :
    (ofList (ps ++ qs)).get? name = ((ofList qs).get? name).or ((ofList ps).get? name) := by
  simp only [get?_ofList, List.filter_append, List.map_append, List.getLast?_append]

namespace Labels

/-- The catalogue of supplied labels with others laid over it, one after the other. -/
def overlaid? (first : Value) (rest : List Value) : Option Labels :=
  (ofValue? first).bind (rest.foldlM overlay?)

variable {labels added : Labels} {first v : Value} {rest : List Value}

/-- Labels that are not given make the catalogue without entries. -/
theorem ofValue?_of_not_isGiven (h : v.isGiven = false) : ofValue? v = some Keyed.empty := by
  unfold ofValue?
  split
  · next fields =>
    have hnil : fields = [] := by simpa [Value.isGiven] using h
    rw [hnil]
    rfl
  · rw [h]
    rfl

/-- The entries of labels come after those of the catalogue that they are laid over. -/
theorem get?_overlay {es : List (String × Value)} (h : labels.overlay? v = some added)
    (hes : ∀ token, labels.get? token = (Keyed.ofList es).get? token) (token : String) :
    added.get? token = (Keyed.ofList (es ++ v.members)).get? token := by
  obtain ⟨upper, hv, rfl⟩ := Option.map_eq_some_iff.mp h
  rw [Keyed.get?_merge labels (distinct_of_ofValue? hv), hes, eq_ofList_members hv,
    Keyed.get?_ofList_append]

/-- **Catalogues over one another find** what a catalogue of all the entries in order finds. -/
theorem get?_overlaid (h : overlaid? first rest = some labels) (token : String) :
    labels.get? token = (Keyed.ofList ((first :: rest).flatMap Value.members)).get? token := by
  obtain ⟨lowest, hfirst, hrest⟩ := Option.bind_eq_some_iff.mp h
  have hlowest : ∀ token, lowest.get? token = (Keyed.ofList first.members).get? token := fun _ => by
    rw [eq_ofList_members hfirst]
  rw [List.flatMap_cons]
  -- The induction is on the labels above, with any catalogue and its entries under them.
  generalize first.members = es at hlowest ⊢
  clear h hfirst
  induction rest generalizing lowest es with
  | nil =>
      rw [List.flatMap_nil, List.append_nil, ← Option.some.inj hrest, hlowest]
  | cons v r ih =>
      obtain ⟨next, hnext, hr⟩ := Option.bind_eq_some_iff.mp hrest
      rw [List.flatMap_cons, ← List.append_assoc]
      exact ih next hr _ (get?_overlay hnext hlowest)

example : (overlaid? (.object [("a", .text "1"), ("A", .text "2")]) [.object [("a", .text "3")]]).bind
    (·.text? "A") = some "3" := by decide +kernel

/-- Labels that can each be made a catalogue can be laid over one another. -/
theorem exists_overlaid (h : ∀ v ∈ first :: rest, (ofValue? v).isSome = true) :
    ∃ labels, overlaid? first rest = some labels := by
  obtain ⟨hfirst, hrest⟩ := List.forall_mem_cons.mp h
  obtain ⟨lowest, hlowest⟩ := Option.isSome_iff_exists.mp hfirst
  rw [overlaid?, hlowest, Option.bind_some]
  clear h hfirst hlowest
  induction rest generalizing lowest with
  | nil => exact ⟨lowest, rfl⟩
  | cons v r ih =>
      obtain ⟨hv, hr⟩ := List.forall_mem_cons.mp hrest
      obtain ⟨upper, hupper⟩ := Option.isSome_iff_exists.mp hv
      rw [List.foldlM_cons, overlay?, hupper]
      exact ih hr (lowest.merge upper)

end Labels

/-! ### What stays -/

namespace Catalogues

variable {s : Catalogues} {own : Labels} {place : Nat}

theorem get_of_getElem? (h : s.made[place]? = some own) : s.get place = own := by
  rw [get, h]
  rfl

/-- Labels over a catalogue come after the catalogues that there are. -/
theorem isPrefix_overlay (s : Catalogues) (place : Nat) (labels : Value) :
    s.made <+: (s.overlay place labels).1.made := by
  cases h : Labels.ofValue? labels with
  | none =>
      rw [overlay_fail s place h]
      exact List.prefix_append ..
  | some added =>
      rw [overlay_eq s place h]
      exact List.prefix_append ..

/-- So does a call with labels, and one without leaves the catalogues that there are. -/
theorem isPrefix_forCall (s : Catalogues) (own : Nat) (labels : Value) :
    s.made <+: (s.forCall own labels).1.made := by
  unfold forCall
  split
  · exact isPrefix_overlay s own labels
  · exact List.prefix_rfl

/-- **No event changes a catalogue:** those that there were stay where they are. -/
theorem isPrefix_step (s : Catalogues) (e : Event) : s.made <+: (s.step e).1.made := by
  cases e with
  | create labels =>
      cases h : Labels.ofValue? labels with
      | none => simp [step, create_fail s h]
      | some added =>
          rw [step, create_eq s h]
          exact List.prefix_append ..
  | overlay place labels => exact isPrefix_overlay s place labels
  | describe place token => exact List.prefix_rfl
  | evaluate own rules facts labels =>
      unfold step evaluate
      dsimp only
      split
      · exact List.prefix_rfl
      · exact isPrefix_forCall s own labels

/-- However many events there are, the catalogues of before stay where they are. -/
theorem isPrefix_after (s : Catalogues) (events : List Event) : s.made <+: (s.after events).made := by
  induction events generalizing s with
  | nil => exact List.prefix_rfl
  | cons e r ih => exact (isPrefix_step s e).trans (ih (s.step e).1)

theorem getElem?_of_isPrefix {t : Catalogues} (h : s.made[place]? = some own) (ht : s.made <+: t.made) :
    t.made[place]? = some own := by
  obtain ⟨later, hlater⟩ := ht
  rw [← hlater, List.getElem?_append_left (List.getElem?_eq_some_iff.mp h).1, h]

theorem get_after (h : s.made[place]? = some own) (events : List Event) :
    (s.after events).get place = own :=
  get_of_getElem? (getElem?_of_isPrefix h (isPrefix_after s events))

/-! ### What calls are answered -/

/-- What a call goes on with is the catalogue of the evaluator, with the labels of the call over it. -/
theorem forCall_andThen {α : Type} (s : Catalogues) (engine : Nat) (labels : Value)
    (next : Labels → Reported α) :
    ((s.forCall engine labels).2.andThen fun place => next ((s.forCall engine labels).1.get place)) =
      (suppliedLabels (s.get engine) labels).andThen next := by
  unfold forCall
  split
  · cases h : Labels.ofValue? labels with
    | none =>
        rw [overlay_fail s engine h, suppliedLabels, Labels.overlay?, h]
        rfl
    | some added =>
        rw [overlay_eq s engine h, suppliedLabels_eq _ h, Reported.done_andThen, Reported.done_andThen]
        simp [get]
  · next hnot =>
    have hempty := Labels.ofValue?_of_not_isGiven (Bool.eq_false_iff.mpr hnot)
    rw [suppliedLabels_eq _ hempty, Reported.done_andThen, Reported.done_andThen]
    rfl

/-- A call with a document is answered with what it comes to for the catalogue of the evaluator. -/
theorem evaluateDocument_eq (s : Catalogues) (engine : Nat) (d : Document) (facts labels : Value) :
    (s.evaluateDocument engine d facts labels).2 =
      d.evaluateSupplied (s.get engine) facts labels :=
  forCall_andThen s engine labels fun catalog =>
    (suppliedFacts facts).andThen fun table => d.evaluate table catalog

/-- A call is answered with what the rules come to for the catalogue of the evaluator. -/
theorem evaluate_eq (s : Catalogues) (engine : Nat) (rules facts labels : Value) :
    (s.evaluate engine rules facts labels).2 = evaluateRules (s.get engine) rules facts labels := by
  rw [evaluateRules_eq_andThen, evaluate]
  obtain ⟨notices, error | d⟩ := Document.read rules
  · rfl
  · exact congrArg (fun x : Reported Outcome => (⟨notices ++ x.notices, x.result⟩ : Reported Outcome))
      (evaluateDocument_eq s engine d facts labels)

/-- What a call of an evaluator is answered after some events. -/
def answer (s : Catalogues) (events : List Event) (engine : Nat) (rules facts labels : Value) :
    Reported Outcome :=
  ((s.after events).evaluate engine rules facts labels).2

/-- **Every call is answered as if it were the first,** whatever there was before it. -/
theorem answer_eq {engine : Nat} (h : s.made[engine]? = some own) (events : List Event)
    (rules facts labels : Value) :
    s.answer events engine rules facts labels = evaluateRules own rules facts labels := by
  rw [answer, evaluate_eq, get_after h]

/-! ### What overlays make -/

/-- Labels laid over a catalogue, and others over the merged one, and so on. -/
def overlays (s : Catalogues) (place : Nat) : List Value → Catalogues × Reported Nat
  | [] => (s, .done place)
  | v :: r =>
    match s.overlay place v with
    | (s, ⟨_, .ok merged⟩) => s.overlays merged r
    | (s, ⟨notices, .error e⟩) => (s, ⟨notices, .error e⟩)

/-- A catalogue of supplied labels with others laid over it, one after the other. -/
def createOverlaid (s : Catalogues) (first : Value) (rest : List Value) : Catalogues × Reported Nat :=
  match s.create first with
  | (s, ⟨_, .ok place⟩) => s.overlays place rest
  | (s, ⟨notices, .error e⟩) => (s, ⟨notices, .error e⟩)

theorem exists_overlays {rest : List Value} {merged : Labels} (h : s.made[place]? = some own)
    (hrest : rest.foldlM Labels.overlay? own = some merged) :
    ∃ t last, s.overlays place rest = (t, .done last) ∧ t.made[last]? = some merged := by
  induction rest generalizing s place own with
  | nil => exact ⟨s, place, rfl, Option.some.inj hrest ▸ h⟩
  | cons v r ih =>
      obtain ⟨next, hnext, hr⟩ := Option.bind_eq_some_iff.mp hrest
      obtain ⟨upper, hupper, rfl⟩ := Option.map_eq_some_iff.mp hnext
      rw [overlays, overlay_eq s place hupper, get_of_getElem? h]
      exact ih (by simp) hr

/-- The last of the catalogues that overlays make is the one of all the supplied labels. -/
theorem exists_createOverlaid (s : Catalogues) {first : Value} {rest : List Value} {merged : Labels}
    (h : Labels.overlaid? first rest = some merged) :
    ∃ t last, s.createOverlaid first rest = (t, .done last) ∧ t.made[last]? = some merged := by
  obtain ⟨lowest, hfirst, hrest⟩ := Option.bind_eq_some_iff.mp h
  rw [createOverlaid, create_eq s hfirst]
  exact exists_overlays (by simp) hrest

end Catalogues
end Verdict
