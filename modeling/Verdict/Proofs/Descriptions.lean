/-
# Catalogues of texts

A catalogue whose descriptions are all texts describes every token by a text: a description that
is empty, or missing, gives way to the token, which is a text as well.  Such catalogues stay such
when one is laid over the other (`Labels.AreTexts.merge`).
-/

import Verdict.Evaluation.Label

namespace Verdict

namespace Keyed

variable {α : Type}

/-- An entry of a table after a write is the new one or was there before. -/
theorem mem_putEntry {e new : Entry α} {es : List (Entry α)} (h : e ∈ putEntry new es) :
    e = new ∨ e ∈ es := by
  induction es with
  | nil => exact Or.inl (List.mem_singleton.mp h)
  | cons first r ih =>
      unfold putEntry at h
      split at h
      · exact (List.mem_cons.mp h).imp_right (List.mem_cons_of_mem _)
      · rcases List.mem_cons.mp h with rfl | h
        · exact Or.inr (List.mem_cons_self ..)
        · exact (ih h).imp_right (List.mem_cons_of_mem _)

theorem mem_of_entry_eq {key : String} {e : Entry α} {es : List (Entry α)}
    (h : entry? key es = some e) : e ∈ es := by
  induction es with
  | nil => cases h
  | cons first r ih =>
      unfold entry? at h
      split at h
      · exact Option.some.inj h ▸ List.mem_cons_self ..
      · exact List.mem_cons_of_mem _ (ih h)

/-- Entries put in one after the other are all new or were there before. -/
theorem mem_foldl_putEntry {e : Entry α} {new es : List (Entry α)}
    (h : e ∈ new.foldl (fun es e => putEntry e es) es) : e ∈ new ∨ e ∈ es := by
  induction new generalizing es with
  | nil => exact Or.inr h
  | cons first r ih =>
      rcases ih h with h | h
      · exact Or.inl (List.mem_cons_of_mem _ h)
      · rcases mem_putEntry h with rfl | h
        · exact Or.inl (List.mem_cons_self ..)
        · exact Or.inr h

/-- An entry of a table after some writes is one of before or holds what one of them wrote. -/
theorem mem_entries_putAll {e : Entry α} {t : Keyed α} {pairs : List (String × α)}
    (h : e ∈ (t.putAll pairs).entries) : e ∈ t.entries ∨ e.value ∈ pairs.map Prod.snd := by
  induction pairs generalizing t with
  | nil => exact Or.inl h
  | cons p r ih =>
      rcases ih h with h | h
      · rcases mem_putEntry h with rfl | h
        · exact Or.inr (List.mem_cons_self ..)
        · exact Or.inl h
      · exact Or.inr (List.mem_cons_of_mem _ h)

end Keyed

namespace Labels

/-- Whether every description of a catalogue is a text. -/
def AreTexts (labels : Labels) : Prop := ∀ e ∈ labels.entries, ∃ s, e.value = .text s

theorem areTexts_empty : AreTexts Keyed.empty := fun _ h => absurd h List.not_mem_nil

/-- The catalogue of members that are all texts. -/
theorem areTexts_ofList {fields : List (String × Value)}
    (h : ∀ v ∈ fields.map Prod.snd, ∃ s, v = .text s) : AreTexts (Keyed.ofList fields) :=
  fun _ he => (Keyed.mem_entries_putAll he).elim (fun he => absurd he List.not_mem_nil) (h _)

theorem areTexts_ofTexts (texts : List (String × String)) :
    AreTexts (Keyed.ofList (texts.map fun l => (l.1, .text l.2))) := by
  refine areTexts_ofList fun v hv => ?_
  obtain ⟨l, hl, rfl⟩ := List.mem_map.mp hv
  obtain ⟨t, -, rfl⟩ := List.mem_map.mp hl
  exact ⟨t.2, rfl⟩

/-- **Laying texts over texts leaves texts.** -/
theorem AreTexts.merge {own added : Labels} (ho : own.AreTexts) (ha : added.AreTexts) :
    AreTexts (Keyed.merge own added) := fun e he =>
  (Keyed.mem_foldl_putEntry he).elim (ha e) (ho e)

/-- **A catalogue of texts describes every token by a text.** -/
theorem AreTexts.exists_describe {labels : Labels} (h : labels.AreTexts) (token : String) :
    ∃ s, labels.describe token = .text s := by
  unfold describe
  cases hv : labels.get? token with
  | none => exact ⟨token, rfl⟩
  | some v =>
      obtain ⟨e, he, rfl⟩ := Option.map_eq_some_iff.mp hv
      obtain ⟨s, hs⟩ := h e (Keyed.mem_of_entry_eq he)
      simp only [hs]
      split
      · exact ⟨s, rfl⟩
      · exact ⟨token, rfl⟩

theorem AreTexts.isSome_text? {labels : Labels} (h : labels.AreTexts) (token : String) :
    (labels.text? token).isSome = true := by
  obtain ⟨s, hs⟩ := h.exists_describe token
  rw [text?, hs]
  rfl

end Labels

end Verdict
