/-
# Reported results

An operation gives the notices of its steps in order, and then a result or the failure that
ended it.  The notices of the steps before a failure stay.
-/

import Verdict.Report.Failure
import Verdict.Report.Notice

namespace Verdict

/-- Notices in order, and a result or a failure. -/
structure Reported (α : Type) where
  notices : List Notice
  result : Except Failure α

namespace Reported

variable {α β : Type}

/-- A result without notices. -/
def done (a : α) : Reported α := ⟨[], .ok a⟩

/-- A failure without notices. -/
def fail (e : Failure) : Reported α := ⟨[], .error e⟩

/-- A single notice. -/
def note (n : Notice) : Reported Unit := ⟨[n], .ok ()⟩

/-- The result of an optional value, whose absence is a failure. -/
def ofOption (e : Failure) : Option α → Reported α
  | some a => done a
  | none => fail e

/-- The result or failure of a step without notices. -/
def ofExcept (r : Except Failure α) : Reported α := ⟨[], r⟩

/-- One operation after another: a failure of the first is the failure of both. -/
def andThen (x : Reported α) (f : α → Reported β) : Reported β :=
  match x.result with
  | .ok a =>
    let y := f a
    ⟨x.notices ++ y.notices, y.result⟩
  | .error e => ⟨x.notices, .error e⟩

instance : Monad Reported where
  pure := done
  bind := andThen

/-- The result, if there is one. -/
def result? (x : Reported α) : Option α := x.result.toOption

@[simp] theorem andThen_done (x : Reported α) : x.andThen done = x := by
  obtain ⟨ns, r⟩ := x
  cases r <;> simp [andThen, done]

@[simp] theorem done_andThen (a : α) (f : α → Reported β) : (done a).andThen f = f a := by
  simp [andThen, done]

@[simp] theorem fail_andThen (e : Failure) (f : α → Reported β) : (fail e).andThen f = fail e := rfl

/-- What comes after a result is up to the result alone. -/
theorem result_andThen (x : Reported α) (f : α → Reported β) :
    (x.andThen f).result = x.result.bind fun a => (f a).result := by
  obtain ⟨ns, r⟩ := x
  cases r <;> rfl

/-- What comes after a result has one only where the first has. -/
theorem exists_of_result_andThen {x : Reported α} {f : α → Reported β} {b : β}
    (h : (x.andThen f).result = .ok b) : ∃ a, x.result = .ok a ∧ (f a).result = .ok b := by
  rw [result_andThen] at h
  cases hx : x.result with
  | error e =>
      rw [hx] at h
      cases h
  | ok a =>
      rw [hx] at h
      exact ⟨a, rfl, h⟩

theorem result?_eq_some_iff {x : Reported α} {a : α} : x.result? = some a ↔ x.result = .ok a := by
  obtain ⟨ns, r⟩ := x
  cases r <;> simp [result?, Except.toOption]

end Reported

end Verdict
