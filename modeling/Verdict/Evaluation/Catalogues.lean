/-
# Catalogues in use

An evaluator does not hold its catalogue of labels: it knows the place of one, which others may know as
well.  Laying labels over a catalogue makes another one, at a place of its own, and a call of an
evaluator with labels uses such a catalogue in place of the evaluator's.

| event | changes | is answered with |
| --- | --- | --- |
| a catalogue is made of labels | there is one more | its place |
| labels are laid over a catalogue | there is one more of the labels, and the merged one | the place of the merged one |
| a token is looked up | nothing | its description |
| an evaluator is called with labels | as where labels are laid over its catalogue | the outcome |
| an evaluator is called without labels | nothing | the outcome |
-/

import Verdict.Evaluation.Outcome

namespace Verdict

/-- The catalogues in use, each at its place. -/
structure Catalogues where
  made : List Labels

namespace Catalogues

/-- Before any catalogue is made. -/
def start : Catalogues := ⟨[]⟩

/-- The catalogue at a place. -/
def get (s : Catalogues) (place : Nat) : Labels := s.made[place]?.getD Keyed.empty

/-- One more catalogue, and its place. -/
def add (s : Catalogues) (labels : Labels) : Catalogues × Nat := (⟨s.made ++ [labels]⟩, s.made.length)

/-- What a catalogue at a place becomes. -/
def write (s : Catalogues) (place : Nat) (labels : Labels) : Catalogues := ⟨s.made.set place labels⟩

/-- A catalogue of supplied labels. -/
def create (s : Catalogues) (labels : Value) : Catalogues × Reported Nat :=
  match Labels.ofValue? labels with
  | some made =>
    let (s, place) := s.add made
    (s, .done place)
  | none => (s, .fail .noMembers)

/-- A catalogue with supplied labels over those of the catalogue at a place.  It is empty until the
catalogue of the supplied labels is made, and is then written once. -/
def overlay (s : Catalogues) (place : Nat) (labels : Value) : Catalogues × Reported Nat :=
  let own := s.get place
  let (s, merged) := s.add Keyed.empty
  let (s, added) := s.create labels
  match added.result with
  | .ok added => (s.write merged (own.merge (s.get added)), .done merged)
  | .error e => (s, .fail e)

section
variable {labels : Value} {added : Labels}

theorem create_eq (s : Catalogues) (h : Labels.ofValue? labels = some added) :
    s.create labels = (⟨s.made ++ [added]⟩, .done s.made.length) := by
  rw [create, h]
  rfl

theorem create_fail (s : Catalogues) (h : Labels.ofValue? labels = none) :
    s.create labels = (s, .fail .noMembers) := by
  rw [create, h]

/-- Laying labels over a catalogue puts the merged one, and the one of the labels, after those that
there are. -/
theorem overlay_eq (s : Catalogues) (place : Nat) (h : Labels.ofValue? labels = some added) :
    s.overlay place labels =
      (⟨s.made ++ [(s.get place).merge added, added]⟩, .done s.made.length) := by
  rw [overlay]
  simp only [add, create_eq _ h, Reported.done, write, get, List.append_assoc, List.singleton_append,
    List.length_append, List.length_singleton, List.set_append_right _ _ (Nat.le_refl _)]
  simp

theorem overlay_fail (s : Catalogues) (place : Nat) (h : Labels.ofValue? labels = none) :
    s.overlay place labels = (⟨s.made ++ [Keyed.empty]⟩, .fail .noMembers) := by
  rw [overlay]
  simp only [add, create_fail _ h, Reported.fail]

end

/-- The place of the catalogue that a call of an evaluator uses. -/
def forCall (s : Catalogues) (own : Nat) (labels : Value) : Catalogues × Reported Nat :=
  if labels.isGiven then s.overlay own labels else (s, .done own)

/-- A call of the evaluator whose catalogue is at a place, with a document. -/
def evaluateDocument (s : Catalogues) (own : Nat) (d : Document) (facts labels : Value) :
    Catalogues × Reported Outcome :=
  let (s, used) := s.forCall own labels
  (s, used.andThen fun place =>
    (suppliedFacts facts).andThen fun table => d.evaluate table (s.get place))

/-- A call of the evaluator whose catalogue is at a place. -/
def evaluate (s : Catalogues) (own : Nat) (rules facts labels : Value) : Catalogues × Reported Outcome :=
  let read := Document.read rules
  match read.result with
  | .error e => (s, ⟨read.notices, .error e⟩)
  | .ok d =>
    let (s, evaluated) := s.evaluateDocument own d facts labels
    (s, read.andThen fun _ => evaluated)

/-- What may happen to catalogues. -/
inductive Event where
  | create (labels : Value)
  | overlay (place : Nat) (labels : Value)
  | describe (place : Nat) (token : String)
  | evaluate (own : Nat) (rules facts labels : Value)

/-- What an event is answered with. -/
inductive Answer where
  | place (made : Reported Nat)
  | description (found : Value)
  | outcome (evaluated : Reported Outcome)

/-- What an event leaves, and its answer. -/
def step (s : Catalogues) : Event → Catalogues × Answer
  | .create labels =>
    let (s, made) := s.create labels
    (s, .place made)
  | .overlay place labels =>
    let (s, made) := s.overlay place labels
    (s, .place made)
  | .describe place token => (s, .description ((s.get place).describe token))
  | .evaluate own rules facts labels =>
    let (s, evaluated) := s.evaluate own rules facts labels
    (s, .outcome evaluated)

/-- What some events leave. -/
def after (s : Catalogues) (events : List Event) : Catalogues :=
  events.foldl (fun s e => (s.step e).1) s

end Catalogues
end Verdict
