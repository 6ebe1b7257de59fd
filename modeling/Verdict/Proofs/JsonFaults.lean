/-
# Numbers that no decimal holds

Reading the JSON text of rules meets its faults in the order of the text.  A number with a fraction
or an exponent is a fault of its own when its decimal is out of range.  It is the one that reading
ends with exactly when the tokens before it are the beginning of a JSON text after which a value
may follow (`run_rules_eq_outOfRange_iff`).
-/

import Verdict.Json.Reader

namespace Verdict

/-- A number that is written with a fraction or an exponent, and whose leading digit stands too
high or whose last digit too low for a decimal. -/
def Numeral.IsOutOfRange (n : Numeral) : Prop :=
  n.isInteger = false ∧
    (Decimal.maxAdjusted < n.toDecimal.adjusted ∨ n.toDecimal.exponent < Decimal.minExponent)

theorem Numeral.decimal?_eq_none_iff (n : Numeral) :
    n.decimal? = none ↔
      Decimal.maxAdjusted < n.toDecimal.adjusted ∨
        n.toDecimal.exponent < Decimal.minExponent := by
  unfold decimal? Decimal.inRange
  rw [ite_eq_right_iff]
  simp only [Bool.and_eq_true, decide_eq_true_eq, reduceCtorEq, imp_false]
  omega

namespace Json

/-- The fault that reading ends with, if it does. -/
def faultOf? : Except Fault Value → Option Fault
  | .ok _ => none
  | .error e => some e

theorem faultOf?_eq_some_iff {r : Except Fault Value} {e : Fault} :
    faultOf? r = some e ↔ r = .error e := by
  cases r <;> simp [faultOf?]

/-- The tokens that stand at the front of a text, with blanks before each, and what follows. -/
inductive Scans : List Char → List Token → List Char → Prop
  | nil (cs : List Char) : Scans cs [] cs
  | cons {cs r rest : List Char} {t : Token} {ts : List Token}
      (first : takeToken? (skipBlanks cs) = some (t, r)) (more : Scans r ts rest) :
      Scans cs (t :: ts) rest

/-- The state after some more tokens. -/
def steps (d : Dialect) : State → List Token → Except Fault State
  | st, [] => .ok st
  | st, t :: ts => (step d st t).bind fun st => steps d st ts

/-- Whether a value may follow. -/
def State.awaitsValue : State → Bool
  | .value _ | .firstItem _ => true
  | _ => false

section
variable {d : Dialect}

theorem numberValue_rules_eq_outOfRange_iff (n : Numeral) :
    numberValue .rules n = .error .outOfRange ↔ n.IsOutOfRange := by
  unfold numberValue Numeral.IsOutOfRange
  rw [← n.decimal?_eq_none_iff]
  cases n.isInteger with
  | true => simp only [if_true]; split <;> simp
  | false => cases n.decimal? <;> simp [Dialect.rules]

theorem opened_ne_outOfRange (stack : List Frame) (st : State) :
    opened d stack st ≠ .error .outOfRange := by
  unfold opened
  split <;> simp

theorem beginValue_rules_eq_outOfRange_iff (stack : List Frame) (t : Token) :
    beginValue .rules stack t = .error .outOfRange ↔ ∃ n, t = .number n ∧ n.IsOutOfRange := by
  cases t with
  | number n =>
      simp only [Token.number.injEq, exists_eq_left', beginValue]
      rw [← numberValue_rules_eq_outOfRange_iff n]
      cases numberValue .rules n <;> simp [Except.map]
  | openList => simp [beginValue, opened_ne_outOfRange]
  | openObject => simp [beginValue, opened_ne_outOfRange]
  | _ => simp [beginValue]

theorem afterValue_ne_outOfRange (v : Value) (stack : List Frame) (t : Token) :
    afterValue v stack t ≠ .error .outOfRange := by
  unfold afterValue
  split <;> simp

/-- **A step meets a number out of range** exactly where a value may follow. -/
theorem step_rules_eq_outOfRange_iff (st : State) (t : Token) :
    step .rules st t = .error .outOfRange ↔
      st.awaitsValue = true ∧ ∃ n, t = .number n ∧ n.IsOutOfRange := by
  cases st with
  | value stack => simp [step, State.awaitsValue, beginValue_rules_eq_outOfRange_iff]
  | firstItem stack =>
      cases t <;> simp [step, State.awaitsValue, beginValue_rules_eq_outOfRange_iff]
  | after v stack => simp [step, State.awaitsValue, afterValue_ne_outOfRange]
  | firstName stack => cases t <;> simp [step, State.awaitsValue]
  | name read stack => cases t <;> simp [step, State.awaitsValue]
  | colon read s stack => cases t <;> simp [step, State.awaitsValue]

theorem finish_ne_outOfRange (st : State) : finish st ≠ .error .outOfRange := by
  unfold finish
  split <;> simp

end

theorem scans_cons_iff {cs rest : List Char} {t : Token} {ts : List Token} :
    Scans cs (t :: ts) rest ↔
      ∃ r, takeToken? (skipBlanks cs) = some (t, r) ∧ Scans r ts rest :=
  ⟨fun | .cons first more => ⟨_, first, more⟩, fun ⟨_, first, more⟩ => .cons first more⟩

/-- **Whether a text meets a number out of range:** some tokens at its front lead from a state to
one in which a value may follow, and such a number is next. -/
def MeetsOutOfRange (st : State) (cs : List Char) : Prop :=
  ∃ ts n r after, Scans cs (ts ++ [.number n]) r ∧ steps .rules st ts = .ok after ∧
    after.awaitsValue = true ∧ n.IsOutOfRange

/-- A text without a token at its front meets no number. -/
theorem not_meetsOutOfRange {st : State} {cs : List Char}
    (h : takeToken? (skipBlanks cs) = none) : ¬ MeetsOutOfRange st cs := by
  rintro ⟨ts, n, r, -, hs, -⟩
  obtain ⟨t, ts', hts⟩ := List.exists_cons_of_ne_nil (List.append_ne_nil_of_right_ne_nil ts
    (List.cons_ne_nil (Token.number n) []))
  rw [hts, scans_cons_iff, h] at hs
  obtain ⟨_, hs, -⟩ := hs
  cases hs

/-- The number is the token at the front of the text, or the text meets it after that token. -/
theorem meetsOutOfRange_iff {st : State} {cs r : List Char} {t : Token}
    (h : takeToken? (skipBlanks cs) = some (t, r)) :
    MeetsOutOfRange st cs ↔
      step .rules st t = .error .outOfRange ∨
        ∃ next, step .rules st t = .ok next ∧ MeetsOutOfRange next r := by
  constructor
  · rintro ⟨ts, n, rest, after, hs, hsteps, hv, hn⟩
    cases ts with
    | nil =>
        obtain ⟨_, ht, -⟩ := scans_cons_iff.mp hs
        obtain ⟨rfl, -⟩ := Prod.mk.inj (Option.some.inj (h.symm.trans ht))
        obtain rfl := Except.ok.inj hsteps
        exact Or.inl ((step_rules_eq_outOfRange_iff st _).mpr ⟨hv, n, rfl, hn⟩)
    | cons t' ts =>
        obtain ⟨_, ht, hs⟩ := scans_cons_iff.mp hs
        obtain ⟨rfl, rfl⟩ := Prod.mk.inj (Option.some.inj (h.symm.trans ht))
        rw [steps] at hsteps
        cases hstep : step .rules st t with
        | error e => rw [hstep] at hsteps; cases hsteps
        | ok next =>
            rw [hstep] at hsteps
            exact Or.inr ⟨next, rfl, ts, n, rest, after, hs, hsteps, hv, hn⟩
  · rintro (hstep | ⟨next, hstep, ts, n, rest, after, hs, hsteps, hv, hn⟩)
    · obtain ⟨hv, n, rfl, hn⟩ := (step_rules_eq_outOfRange_iff st t).mp hstep
      exact ⟨[], n, r, st, scans_cons_iff.mpr ⟨r, h, .nil r⟩, rfl, hv, hn⟩
    · refine ⟨t :: ts, n, rest, after, scans_cons_iff.mpr ⟨r, h, hs⟩, ?_, hv, hn⟩
      rw [steps, hstep]
      exact hsteps

/-- **Reading ends with a number out of range** exactly when the text meets one. -/
theorem run_rules_eq_outOfRange_iff (st : State) (cs : List Char) :
    run .rules st cs = .error .outOfRange ↔ MeetsOutOfRange st cs := by
  generalize hd : Dialect.rules = d
  fun_induction run d st cs with
  | case1 st cs hb =>
      have ht : takeToken? (skipBlanks cs) = none := by
        rw [List.isEmpty_iff.mp hb]
        rfl
      exact iff_of_false (finish_ne_outOfRange st) (not_meetsOutOfRange ht)
  | case2 st cs hb ht =>
      refine iff_of_false (fun h => ?_) (not_meetsOutOfRange ht)
      cases h
  | case3 st cs hb t r ht next hn ih =>
      subst hd
      rw [ih, meetsOutOfRange_iff ht, hn]
      simp
  | case4 st cs hb t r ht e he =>
      subst hd
      rw [meetsOutOfRange_iff ht, he]
      simp

end Json
end Verdict
