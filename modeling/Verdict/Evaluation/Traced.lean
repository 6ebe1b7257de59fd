/-
# Traced results

An evaluation leaves lines in the trace beside the notices it reports.  The lines recorded
before a failure stay.
-/

import Verdict.Evaluation.Line
import Verdict.Report.Basic

namespace Verdict

/-- Recorded lines in order, and a reported result. -/
structure Traced (α : Type) where
  lines : Trace
  report : Reported α

namespace Traced

variable {α β : Type}

/-- A result that leaves nothing. -/
def done (a : α) : Traced α := ⟨[], .done a⟩

/-- A failure that leaves nothing. -/
def fail (e : Failure) : Traced α := ⟨[], .fail e⟩

/-- A single line. -/
def record (l : Line) : Traced Unit := ⟨[l], .done ()⟩

/-- A single notice. -/
def note (n : Notice) : Traced Unit := ⟨[], .note n⟩

/-- A reported result that records no line. -/
def ofReported (r : Reported α) : Traced α := ⟨[], r⟩

/-- One evaluation after another. -/
def andThen (x : Traced α) (f : α → Traced β) : Traced β :=
  match x.report.result with
  | .ok a =>
    let y := f a
    ⟨x.lines ++ y.lines, x.report.notices ++ y.report.notices, y.report.result⟩
  | .error e => ⟨x.lines, x.report.notices, .error e⟩

instance : Monad Traced where
  pure := done
  bind := andThen

/-- A result whose lines are added to those of an earlier trace. -/
def onto (x : Traced α) (earlier : Trace) : Trace × Reported α := (earlier ++ x.lines, x.report)

@[simp] theorem done_andThen (a : α) (f : α → Traced β) : (done a).andThen f = f a := by
  simp [andThen, done, Reported.done]

@[simp] theorem fail_andThen (e : Failure) (f : α → Traced β) : (fail e).andThen f = fail e := rfl

/-- What follows a result comes after its lines and its notices. -/
theorem ok_andThen (ls : Trace) (ns : List Notice) (a : α) (f : α → Traced β) :
    andThen ⟨ls, ns, .ok a⟩ f =
      ⟨ls ++ (f a).lines, ns ++ (f a).report.notices, (f a).report.result⟩ := rfl

/-- A step without lines and notices before another leaves what the other leaves. -/
@[simp] theorem ofReported_done_andThen (a : α) (f : α → Traced β) :
    (ofReported (.done a)).andThen f = f a := done_andThen a f

end Traced
end Verdict
