/-
# The grammar of number text

Number text is a sign, digits and an exponent (`NumberText`), each of which has a grammar of its own:

| part | is |
| --- | --- |
| sign | `+`, `-` or nothing |
| digits | an integer, by itself or with a point and any digits; or a point and at least one digit |
| integer | a run of digits; or one to three digits, and then groups of a comma and three digits |
| exponent | `e` or `E`, a sign and at least one digit; or nothing |

A reader of number text follows the grammar (`Numeral.ofChars?_eq_some_iff`), and leaves out the commas.
Decimals can be constructed from texts as well (`Constructs`): these have no commas, but white space at
the ends and underscores anywhere, and they name infinities and what is no number.  Number text without
its commas constructs the decimal that it is read as, and nothing that is read constructs anything but a
decimal (`number_text_exact`).
-/

import Mathlib.Tactic.FieldSimp
import Verdict.Fact.Basic
import Verdict.Proofs.DecimalValue
import Verdict.Proofs.ScientificText

namespace Verdict

open Text

/-! ### The grammar -/

/-- Digits of any script, with their values. -/
abbrev DigitText : List Char → List Nat → Prop := List.Forall₂ fun c d => digit? c = some d

/-- Groups of a comma and three digits, with the values of the digits. -/
inductive GroupText : List Char → List Nat → Prop
  | nil : GroupText [] []
  | cons {a b c : Char} {x y z : Nat} {r : List Char} {ds : List Nat} (ha : digit? a = some x)
      (hb : digit? b = some y) (hc : digit? c = some z) (hr : GroupText r ds) :
      GroupText (',' :: a :: b :: c :: r) (x :: y :: z :: ds)

/-- A run of digits, with their values. -/
structure RunText (cs : List Char) (ds : List Nat) : Prop where
  digits : DigitText cs ds
  ne_nil : ds ≠ []

/-- An integer, with the values of its digits. -/
inductive IntegerText : List Char → List Nat → Prop
  | run {cs : List Char} {ds : List Nat} (h : RunText cs ds) : IntegerText cs ds
  | grouped {cs gs : List Char} {ds es : List Nat} (h : DigitText cs ds) (hpos : 1 ≤ ds.length)
      (hle : ds.length ≤ 3) (hg : GroupText gs es) (hne : gs ≠ []) :
      IntegerText (cs ++ gs) (ds ++ es)

/-- A sign, with whether it is a minus. -/
inductive SignText : List Char → Bool → Prop
  | none : SignText [] false
  | plus : SignText ['+'] false
  | minus : SignText ['-'] true

/-- Digits with a point or without, with the values of those before and behind it, where it is given what
an integer is. -/
inductive PointText (integer : List Char → List Nat → Prop) :
    List Char → List Nat → Option (List Nat) → Prop
  | whole {cs : List Char} {ds : List Nat} (h : integer cs ds) : PointText integer cs ds none
  | point {cs fs : List Char} {ds es : List Nat} (h : integer cs ds) (hf : DigitText fs es) :
      PointText integer (cs ++ '.' :: fs) ds (some es)
  | fraction {fs : List Char} {es : List Nat} (h : RunText fs es) :
      PointText integer ('.' :: fs) [] (some es)

/-- An exponent, with its value. -/
inductive ExponentText : List Char → Option Int → Prop
  | none : ExponentText [] none
  | marked {c : Char} {s cs : List Char} {negative : Bool} {ds : List Nat} (hc : c = 'e' ∨ c = 'E')
      (hs : SignText s negative) (h : RunText cs ds) :
      ExponentText (c :: (s ++ cs)) (some (if negative then -(ofDigits ds : Int) else ofDigits ds))

/-- Number text, with the numeral that it writes. -/
inductive NumberText (integer : List Char → List Nat → Prop) : List Char → Numeral → Prop
  | mk {s m e : List Char} {negative : Bool} {whole : List Nat} {fraction : Option (List Nat)}
      {exponent : Option Int} (hs : SignText s negative) (hm : PointText integer m whole fraction)
      (he : ExponentText e exponent) :
      NumberText integer (s ++ (m ++ e)) ⟨negative, whole, fraction, exponent⟩

/-- The number that a numeral writes: its digits before the point, those behind it as a fraction, and
the power of ten of its exponent. -/
def Numeral.value (n : Numeral) : ℚ :=
  (if n.negative then -1 else 1) *
    (ofDigits n.whole + ofDigits (n.fraction.getD []) / 10 ^ (n.fraction.getD []).length) *
      10 ^ n.exponent.getD 0

/-- **A numeral is written out without rounding.** -/
theorem Numeral.value_toDecimal (n : Numeral) : n.toDecimal.value = n.value := by
  obtain ⟨negative, whole, fraction, exponent⟩ := n
  simp only [toDecimal, value, Decimal.value, Decimal.magnitude, ofDigits_append]
  generalize fraction.getD [] = fs
  have hpow : (10 : ℚ) ^ fs.length ≠ 0 := pow_ne_zero _ (by norm_num)
  rw [zpow_sub₀ (by norm_num), zpow_natCast]
  push_cast
  cases negative
  · simp only [Bool.false_eq_true, if_false]
    field_simp
  · simp only [if_true]
    field_simp

/-! ### Reading follows the grammar -/

theorem digit?_comma : digit? ',' = none := by decide

namespace DigitText

variable {cs : List Char} {ds : List Nat}

/-- What is none of the digits is not among them. -/
theorem not_mem (h : DigitText cs ds) {c : Char} (hc : digit? c = none) : c ∉ cs := by
  induction h with
  | nil => exact List.not_mem_nil
  | cons hx _ ih =>
      rw [List.mem_cons, not_or]
      refine ⟨?_, ih⟩
      rintro rfl
      rw [hc] at hx
      cases hx

theorem isDigit_of_mem (h : DigitText cs ds) {c : Char} (hc : c ∈ cs) : isDigit c = true := by
  by_contra hno
  have hnone : digit? c = none := by
    rw [isDigit] at hno
    simpa using hno
  exact h.not_mem hnone hc

end DigitText

theorem IntegerText.ne_nil {cs : List Char} {ds : List Nat} (h : IntegerText cs ds) : ds ≠ [] := by
  cases h with
  | run h => exact h.ne_nil
  | grouped h hpos hle hg hne =>
      exact List.append_ne_nil_of_left_ne_nil (List.ne_nil_of_length_pos hpos) _

/-- Digits with a point or without are some digits. -/
theorem ne_nil_of_pointText {m : List Char} {whole : List Nat} {fraction : Option (List Nat)}
    (h : PointText IntegerText m whole fraction) : whole = [] → fraction.getD [] ≠ [] := by
  cases h with
  | whole h => exact fun hnil => absurd hnil h.ne_nil
  | point h hf => exact fun hnil => absurd hnil h.ne_nil
  | fraction h => exact fun _ => h.ne_nil

/-- The first of the digits, or the point before them. -/
theorem exists_cons_of_pointText {m : List Char} {whole : List Nat} {fraction : Option (List Nat)}
    (h : PointText IntegerText m whole fraction) : ∃ c r, m = c :: r ∧ (isDigit c = true ∨ c = '.') := by
  have hinteger {cs : List Char} {ds : List Nat} (h : IntegerText cs ds) :
      ∃ c r, cs = c :: r ∧ isDigit c = true := by
    cases h with
    | run h =>
        obtain ⟨h, hne⟩ := h
        cases h with
        | nil => exact absurd rfl hne
        | cons hc _ => exact ⟨_, _, rfl, by rw [isDigit, hc]; rfl⟩
    | grouped h hpos hle hg hne =>
        cases h with
        | nil => cases hpos
        | cons hc _ => exact ⟨_, _, rfl, by rw [isDigit, hc]; rfl⟩
  cases h with
  | whole h =>
      obtain ⟨c, r, rfl, hc⟩ := hinteger h
      exact ⟨c, r, rfl, Or.inl hc⟩
  | point h hf =>
      obtain ⟨c, r, rfl, hc⟩ := hinteger h
      exact ⟨c, _, rfl, Or.inl hc⟩
  | fraction h => exact ⟨'.', _, rfl, Or.inr rfl⟩

/-- What begins the digits is no sign. -/
theorem head?_of_pointText {m : List Char} {whole : List Nat} {fraction : Option (List Nat)}
    (h : PointText IntegerText m whole fraction) (rest : List Char) :
    ∀ c ∈ (m ++ rest).head?, c ≠ '-' ∧ c ≠ '+' := by
  obtain ⟨c, r, rfl, hc⟩ := exists_cons_of_pointText h
  rintro _ ⟨⟩
  constructor <;> rintro rfl <;> rcases hc with hc | hc <;> cases hc

/-- What begins an exponent is its mark. -/
theorem head?_of_exponentText {e : List Char} {exponent : Option Int} (h : ExponentText e exponent) :
    ∀ c ∈ e.head?, digit? c = none ∧ c ≠ ',' ∧ c ≠ '.' := by
  cases h with
  | none => simp
  | marked hc hs h =>
      rintro _ ⟨⟩
      rcases hc with rfl | rfl <;> decide

namespace Numeral

variable {cs m rest : List Char} {ds whole : List Nat} {fraction : Option (List Nat)}

theorem takeDigits_of_digitText (h : DigitText cs ds) (hr : ∀ c ∈ rest.head?, digit? c = none) :
    takeDigits (cs ++ rest) = (ds, rest) := by
  induction h with
  | nil =>
      cases rest with
      | nil => rfl
      | cons c r => simp only [List.nil_append, takeDigits, hr c rfl]
  | cons hc _ ih =>
      simp only [List.cons_append, takeDigits, hc, ih]
      rfl

theorem digitText_of_takeDigits (h : takeDigits cs = (ds, rest)) :
    ∃ run, cs = run ++ rest ∧ DigitText run ds := by
  induction cs generalizing ds with
  | nil =>
      obtain ⟨rfl, rfl⟩ := Prod.mk.inj h
      exact ⟨[], rfl, .nil⟩
  | cons c r ih =>
      unfold takeDigits at h
      cases hc : digit? c with
      | none =>
          simp only [hc] at h
          obtain ⟨rfl, rfl⟩ := Prod.mk.inj h
          exact ⟨[], rfl, .nil⟩
      | some d =>
          simp only [hc] at h
          obtain ⟨rfl, rfl⟩ := Prod.mk.inj h
          obtain ⟨run, hr, hrun⟩ := ih rfl
          exact ⟨c :: run, congrArg (List.cons c) hr, .cons hc hrun⟩

theorem takeGroups_of_groupText (h : GroupText cs ds) (hr : ¬ HasGroup rest) :
    takeGroups (cs ++ rest) = (ds, rest) := by
  induction h with
  | nil => exact takeGroups_of_not_hasGroup hr
  | cons ha hb hc _ ih =>
      simp only [List.cons_append, takeGroups, ha, hb, hc, ih]
      rfl

theorem groupText_of_takeGroups (h : takeGroups cs = (ds, rest)) :
    ∃ gs, cs = gs ++ rest ∧ GroupText gs ds := by
  fun_induction takeGroups cs generalizing ds with
  | case1 a b c r x y z hz hy hx ih =>
      obtain ⟨rfl, rfl⟩ := Prod.mk.inj h
      obtain ⟨gs, hr, hgs⟩ := ih rfl
      exact ⟨',' :: a :: b :: c :: gs, congrArg (',' :: a :: b :: c :: ·) hr, .cons hx hy hz hgs⟩
  | case2 =>
      obtain ⟨rfl, rfl⟩ := Prod.mk.inj h
      exact ⟨[], rfl, .nil⟩
  | case3 =>
      obtain ⟨rfl, rfl⟩ := Prod.mk.inj h
      exact ⟨[], rfl, .nil⟩

theorem takeWhole_of_integerText (h : IntegerText cs ds)
    (hr : ∀ c ∈ rest.head?, digit? c = none ∧ c ≠ ',') : takeWhole (cs ++ rest) = (ds, rest) := by
  have hgroups : ¬ HasGroup rest := by
    rintro ⟨a, b, c, r, rfl, -⟩
    exact (hr ',' rfl).2 rfl
  cases h with
  | run h =>
      rw [takeWhole, takeDigits_of_digitText h.digits fun c hc => (hr c hc).1]
      simp only [takeGroups_of_not_hasGroup hgroups, List.append_nil, ite_self]
  | @grouped cs gs ds es h hpos hle hg hne =>
      have hhead : ∀ c ∈ (gs ++ rest).head?, digit? c = none := by
        cases hg with
        | nil => exact absurd rfl hne
        | cons ha hb hc hg =>
            rintro _ ⟨⟩
            exact digit?_comma
      rw [takeWhole, List.append_assoc, takeDigits_of_digitText h hhead]
      simp only [hpos, hle, takeGroups_of_groupText hg hgroups, decide_true, Bool.and_self, if_true]

theorem integerText_of_takeWhole (h : takeWhole cs = (ds, rest)) :
    (ds = [] ∧ rest = cs) ∨ ∃ m, cs = m ++ rest ∧ IntegerText m ds := by
  unfold takeWhole at h
  cases hdigits : takeDigits cs with
  | mk first r =>
      obtain ⟨run, rfl, hrun⟩ := digitText_of_takeDigits hdigits
      simp only [hdigits] at h
      split at h
      · next hfew =>
        simp only [Bool.and_eq_true, decide_eq_true_eq] at hfew
        cases hgroups : takeGroups r with
        | mk grouped r' =>
            obtain ⟨gs, rfl, hgs⟩ := groupText_of_takeGroups hgroups
            simp only [hgroups] at h
            obtain ⟨rfl, rfl⟩ := Prod.mk.inj h
            right
            by_cases hne : gs = []
            · subst hne
              cases hgs
              rw [List.append_nil]
              exact ⟨run, rfl, .run ⟨hrun, List.ne_nil_of_length_pos hfew.1⟩⟩
            · exact ⟨run ++ gs, (List.append_assoc ..).symm, .grouped hrun hfew.1 hfew.2 hgs hne⟩
      · obtain ⟨rfl, rfl⟩ := Prod.mk.inj h
        by_cases hne : first = []
        · subst hne
          cases hrun
          exact Or.inl ⟨rfl, rfl⟩
        · exact Or.inr ⟨run, rfl, .run ⟨hrun, hne⟩⟩

theorem takeSign_of_signText {negative : Bool} (h : SignText cs negative)
    (hr : ∀ c ∈ rest.head?, c ≠ '-' ∧ c ≠ '+') : takeSign (cs ++ rest) = (negative, rest) := by
  cases h with
  | none =>
      cases rest with
      | nil => rfl
      | cons c r => simp [takeSign, (hr c rfl).1, (hr c rfl).2]
  | plus => rfl
  | minus => rfl

theorem signText_of_takeSign {negative : Bool} (h : takeSign cs = (negative, rest)) :
    ∃ s, cs = s ++ rest ∧ SignText s negative := by
  fun_cases takeSign cs with
  | case1 r =>
      obtain ⟨rfl, rfl⟩ := Prod.mk.inj h
      exact ⟨['-'], rfl, .minus⟩
  | case2 r =>
      obtain ⟨rfl, rfl⟩ := Prod.mk.inj h
      exact ⟨['+'], rfl, .plus⟩
  | case3 _ hminus hplus =>
      rw [takeSign] at h
      · obtain ⟨rfl, rfl⟩ := Prod.mk.inj h
        exact ⟨[], rfl, .none⟩
      · exact hminus
      · exact hplus

theorem digitText_of_takeFraction (h : takeFraction cs = (fraction, rest)) :
    (fraction = none ∧ rest = cs) ∨
      ∃ fs es, fraction = some es ∧ cs = '.' :: (fs ++ rest) ∧ DigitText fs es := by
  fun_cases takeFraction cs with
  | case1 r =>
      rw [takeFraction] at h
      obtain ⟨rfl, rfl⟩ := Prod.mk.inj h
      have hdigits : takeDigits r = ((takeDigits r).1, (takeDigits r).2) := rfl
      obtain ⟨fs, hr, hfs⟩ := digitText_of_takeDigits hdigits
      exact Or.inr ⟨fs, _, rfl, congrArg (List.cons '.') hr, hfs⟩
  | case2 cs hpoint =>
      rw [takeFraction] at h
      · obtain ⟨rfl, rfl⟩ := Prod.mk.inj h
        exact Or.inl ⟨rfl, rfl⟩
      · exact hpoint

/-- The digits of number text are taken in two steps, those before the point and those behind it. -/
theorem take_of_pointText (h : PointText IntegerText m whole fraction)
    (hr : ∀ c ∈ rest.head?, digit? c = none ∧ c ≠ ',' ∧ c ≠ '.') :
    ∃ behind, takeWhole (m ++ rest) = (whole, behind) ∧ takeFraction behind = (fraction, rest) := by
  have hdigit : ∀ c ∈ rest.head?, digit? c = none := fun c hc => (hr c hc).1
  have hpoint (fs : List Char) : ∀ c ∈ ('.' :: fs).head?, digit? c = none ∧ c ≠ ',' := by
    rintro _ ⟨⟩
    decide
  cases h with
  | whole h =>
      refine ⟨rest, takeWhole_of_integerText h fun c hc => ⟨(hr c hc).1, (hr c hc).2.1⟩, ?_⟩
      cases rest with
      | nil => rfl
      | cons c r => simp [takeFraction, (hr c rfl).2.2]
  | @point cs fs ds es h hf =>
      refine ⟨'.' :: (fs ++ rest), ?_, ?_⟩
      · rw [List.append_assoc]
        exact takeWhole_of_integerText h (hpoint _)
      · rw [takeFraction, takeDigits_of_digitText hf hdigit]
        rfl
  | @fraction fs es h =>
      refine ⟨'.' :: (fs ++ rest), ?_, ?_⟩
      · rw [takeWhole]
        rfl
      · rw [takeFraction, takeDigits_of_digitText h.digits hdigit]
        rfl

theorem pointText_of_take {behind : List Char} (hw : takeWhole cs = (whole, behind))
    (hf : takeFraction behind = (fraction, rest)) (hne : ¬ (whole = [] ∧ fraction.getD [] = [])) :
    ∃ m, cs = m ++ rest ∧ PointText IntegerText m whole fraction := by
  rcases integerText_of_takeWhole hw with ⟨rfl, rfl⟩ | ⟨ws, rfl, hws⟩
  · rcases digitText_of_takeFraction hf with ⟨rfl, rfl⟩ | ⟨fs, es, rfl, rfl, hfs⟩
    · exact absurd ⟨rfl, rfl⟩ hne
    · exact ⟨'.' :: fs, rfl, .fraction ⟨hfs, fun hes => hne ⟨rfl, hes⟩⟩⟩
  · rcases digitText_of_takeFraction hf with ⟨rfl, rfl⟩ | ⟨fs, es, rfl, rfl, hfs⟩
    · exact ⟨ws, rfl, .whole hws⟩
    · exact ⟨ws ++ '.' :: fs, by rw [List.append_assoc, List.cons_append], .point hws hfs⟩

/-- The exponent that a text writes is the one of the grammar. -/
theorem exponent?_eq_some_iff {e : Option Int} : exponent? cs = some e ↔ ExponentText cs e := by
  constructor
  · intro h
    cases cs with
    | nil =>
        obtain rfl := Option.some.inj h
        exact .none
    | cons c r =>
        rw [exponent?] at h
        split at h
        · next hc =>
          have hmark : c = 'e' ∨ c = 'E' := by simpa using hc
          cases hsign : takeSign r with
          | mk negative r' =>
              obtain ⟨s, rfl, hs⟩ := signText_of_takeSign hsign
              simp only [hsign] at h
              split at h
              · next d ds hdigits =>
                obtain ⟨run, rfl, hrun⟩ := digitText_of_takeDigits hdigits
                obtain rfl := Option.some.inj h
                rw [List.append_nil]
                exact .marked hmark hs ⟨hrun, List.cons_ne_nil d ds⟩
              · cases h
        · cases h
  · intro h
    cases h with
    | none => rfl
    | @marked c s cs negative ds hc hs h =>
        obtain ⟨h, hne⟩ := h
        have hmark : (c == 'e' || c == 'E') = true := by simpa using hc
        have hsign : takeSign (s ++ cs) = (negative, cs) := by
          refine takeSign_of_signText hs fun x hx => ?_
          have hdigit := h.isDigit_of_mem (List.mem_of_mem_head? hx)
          constructor <;> rintro rfl <;> cases hdigit
        have hdigits : takeDigits cs = (ds, []) := by
          have hend : ∀ c ∈ ([] : List Char).head?, digit? c = none := by simp
          rw [← takeDigits_of_digitText h hend, List.append_nil]
        obtain ⟨d, ds, rfl⟩ := List.exists_cons_of_ne_nil hne
        rw [exponent?, if_pos hmark, hsign]
        simp only [hdigits]

/-- **Reading follows the grammar:** what is read as a numeral is number text that writes it. -/
theorem ofChars?_eq_some_iff {n : Numeral} : ofChars? cs = some n ↔ NumberText IntegerText cs n := by
  constructor
  · intro h
    cases hsign : takeSign cs with
    | mk negative r =>
    cases hwhole : takeWhole r with
    | mk whole behind =>
    cases hfraction : takeFraction behind with
    | mk fraction e =>
        simp only [ofChars?, hsign, hwhole, hfraction] at h
        split at h
        · cases h
        · next hsome =>
          obtain ⟨exponent, he, rfl⟩ := Option.map_eq_some_iff.mp h
          obtain ⟨s, rfl, hs⟩ := signText_of_takeSign hsign
          obtain ⟨m, rfl, hm⟩ := pointText_of_take hwhole hfraction (by simpa using hsome)
          exact .mk hs hm (exponent?_eq_some_iff.mp he)
  · rintro ⟨hs, hm, he⟩
    rename_i s m e negative whole fraction exponent
    obtain ⟨behind, hwhole, hfraction⟩ := take_of_pointText hm (head?_of_exponentText he)
    have hsign : takeSign (s ++ (m ++ e)) = (negative, m ++ e) :=
      takeSign_of_signText hs (head?_of_pointText hm e)
    have hsome : ¬ (whole.isEmpty && (fraction.getD []).isEmpty) = true := by
      simpa using ne_nil_of_pointText hm
    simp only [ofChars?, hsign, hwhole, hfraction, if_neg hsome, exponent?_eq_some_iff.mpr he]
    rfl

end Numeral

/-! ### Characters of number text -/

/-- The characters of numbers are no white space. -/
theorem isBlank_of_codeIn {c : Char} (h : CodeIn numberRuns c.toNat) : isBlank c = false := by
  have hapart : (numberRuns.all fun r => avoids blankRuns r.1 r.2) = true := by decide +kernel
  obtain ⟨r, hr, hfirst, hlast⟩ := h
  have havoids := List.all_eq_true.mp hapart r hr
  rw [← Bool.not_eq_true, isBlank_iff]
  exact not_codeIn_of_avoids havoids hfirst hlast

/-- None of them is a letter `n`. -/
theorem not_codeIn_of_lowerChar {c : Char} (h : lowerChar c = 'n') : ¬ CodeIn numberRuns c.toNat := by
  by_cases hc : c.toNat < 128
  · revert h
    refine forall_ascii c hc ?_
    decide +kernel
  · rw [lowerChar_of_not_ascii hc] at h
    subst h
    decide

section
variable {integer : List Char → List Nat → Prop} {cs : List Char} {ds : List Nat}

theorem DigitText.codeIn (h : DigitText cs ds) : ∀ c ∈ cs, CodeIn numberRuns c.toNat := by
  intro c hc
  obtain ⟨d, hd⟩ := Option.isSome_iff_exists.mp (h.isDigit_of_mem hc)
  exact codeIn_of_digit? hd

theorem GroupText.codeIn (h : GroupText cs ds) : ∀ c ∈ cs, CodeIn numberRuns c.toNat := by
  induction h with
  | nil => exact fun c hc => absurd hc List.not_mem_nil
  | cons ha hb hc hr ih =>
      simp only [List.forall_mem_cons]
      exact ⟨by decide, codeIn_of_digit? ha, codeIn_of_digit? hb, codeIn_of_digit? hc, ih⟩

theorem IntegerText.codeIn (h : IntegerText cs ds) : ∀ c ∈ cs, CodeIn numberRuns c.toNat := by
  cases h with
  | run h => exact h.digits.codeIn
  | grouped h hpos hle hg hne => exact List.forall_mem_append.mpr ⟨h.codeIn, hg.codeIn⟩

theorem SignText.codeIn {negative : Bool} (h : SignText cs negative) :
    ∀ c ∈ cs, CodeIn numberRuns c.toNat := by
  cases h with
  | none => exact fun c hc => absurd hc List.not_mem_nil
  | plus => exact List.forall_mem_singleton.mpr (by decide)
  | minus => exact List.forall_mem_singleton.mpr (by decide)

theorem PointText.codeIn {fraction : Option (List Nat)} (h : PointText IntegerText cs ds fraction) :
    ∀ c ∈ cs, CodeIn numberRuns c.toNat := by
  have hpoint : CodeIn numberRuns ('.').toNat := by decide
  cases h with
  | whole h => exact h.codeIn
  | point h hf =>
      exact List.forall_mem_append.mpr ⟨h.codeIn, List.forall_mem_cons.mpr ⟨hpoint, hf.codeIn⟩⟩
  | fraction h => exact List.forall_mem_cons.mpr ⟨hpoint, h.digits.codeIn⟩

theorem ExponentText.codeIn {exponent : Option Int} (h : ExponentText cs exponent) :
    ∀ c ∈ cs, CodeIn numberRuns c.toNat := by
  cases h with
  | none => exact fun c hc => absurd hc List.not_mem_nil
  | marked hc hs h =>
      refine List.forall_mem_cons.mpr ⟨?_, List.forall_mem_append.mpr ⟨hs.codeIn, h.digits.codeIn⟩⟩
      rcases hc with rfl | rfl <;> decide

/-- **Number text is made of the characters of numbers.** -/
theorem NumberText.codeIn {n : Numeral} (h : NumberText IntegerText cs n) :
    ∀ c ∈ cs, CodeIn numberRuns c.toNat := by
  cases h with
  | mk hs hm he =>
      exact List.forall_mem_append.mpr ⟨hs.codeIn, List.forall_mem_append.mpr ⟨hm.codeIn, he.codeIn⟩⟩

end

/-! ### Leaving out the commas -/

/-- A text without its commas. -/
def withoutCommas (cs : List Char) : List Char := cs.filter (· != ',')

section
variable {cs : List Char} {ds : List Nat}

theorem withoutCommas_append (cs more : List Char) :
    withoutCommas (cs ++ more) = withoutCommas cs ++ withoutCommas more :=
  List.filter_append ..

theorem withoutCommas_of_not_mem (h : ',' ∉ cs) : withoutCommas cs = cs := by
  refine List.filter_eq_self.mpr fun c hc => ?_
  rw [bne_iff_ne]
  rintro rfl
  exact h hc

theorem SignText.comma_not_mem {negative : Bool} (h : SignText cs negative) : ',' ∉ cs := by
  cases h <;> decide

theorem DigitText.comma_not_mem (h : DigitText cs ds) : ',' ∉ cs := h.not_mem digit?_comma

theorem ExponentText.comma_not_mem {exponent : Option Int} (h : ExponentText cs exponent) :
    ',' ∉ cs := by
  cases h with
  | none => exact List.not_mem_nil
  | marked hc hs h =>
      simp only [List.mem_cons, List.mem_append, not_or]
      refine ⟨?_, hs.comma_not_mem, h.digits.comma_not_mem⟩
      rcases hc with rfl | rfl <;> decide

/-- Groups without their commas are their digits. -/
theorem GroupText.withoutCommas (h : GroupText cs ds) : DigitText (withoutCommas cs) ds := by
  induction h with
  | nil => exact .nil
  | @cons a b c x y z r ds ha hb hc _ ih =>
      have hdigits : DigitText [a, b, c] [x, y, z] := .cons ha (.cons hb (.cons hc .nil))
      have hself := withoutCommas_of_not_mem hdigits.comma_not_mem
      have hsplit : Verdict.withoutCommas (',' :: a :: b :: c :: r) =
          Verdict.withoutCommas [a, b, c] ++ Verdict.withoutCommas r :=
        withoutCommas_append [a, b, c] r
      rw [hsplit, hself]
      exact List.rel_append hdigits ih

/-- An integer without its commas is a run of the same digits. -/
theorem IntegerText.withoutCommas (h : IntegerText cs ds) : RunText (withoutCommas cs) ds := by
  have hne := h.ne_nil
  cases h with
  | run h =>
      rw [withoutCommas_of_not_mem h.digits.comma_not_mem]
      exact h
  | grouped h hpos hle hg _ =>
      rw [withoutCommas_append, withoutCommas_of_not_mem h.comma_not_mem]
      exact ⟨List.rel_append h hg.withoutCommas, hne⟩

theorem PointText.withoutCommas {fraction : Option (List Nat)}
    (h : PointText IntegerText cs ds fraction) : PointText RunText (withoutCommas cs) ds fraction := by
  have hpoint {fs : List Char} {es : List Nat} (h : DigitText fs es) : ',' ∉ '.' :: fs := by
    rw [List.mem_cons, not_or]
    exact ⟨by decide, h.comma_not_mem⟩
  cases h with
  | whole h => exact .whole h.withoutCommas
  | point h hf =>
      rw [withoutCommas_append, withoutCommas_of_not_mem (hpoint hf)]
      exact .point h.withoutCommas hf
  | fraction h =>
      rw [withoutCommas_of_not_mem (hpoint h.digits)]
      exact .fraction h

/-- **Number text without its commas writes the same numeral.** -/
theorem NumberText.withoutCommas {n : Numeral} (h : NumberText IntegerText cs n) :
    NumberText RunText (withoutCommas cs) n := by
  cases h with
  | mk hs hm he =>
      rw [withoutCommas_append, withoutCommas_append, withoutCommas_of_not_mem hs.comma_not_mem,
        withoutCommas_of_not_mem he.comma_not_mem]
      exact .mk hs hm.withoutCommas he

/-- What has no groups is number text. -/
theorem NumberText.of_runText {n : Numeral} (h : NumberText RunText cs n) :
    NumberText IntegerText cs n := by
  obtain ⟨hs, hm, he⟩ := h
  refine .mk hs ?_ he
  cases hm with
  | whole h => exact .whole (.run h)
  | point h hf => exact .point (.run h) hf
  | fraction h => exact .fraction h

/-- A text writes one numeral. -/
theorem NumberText.unique {m n : Numeral} (hm : NumberText IntegerText cs m)
    (hn : NumberText IntegerText cs n) : m = n := by
  have hboth := (Numeral.ofChars?_eq_some_iff.mpr hm).symm.trans (Numeral.ofChars?_eq_some_iff.mpr hn)
  exact Option.some.inj hboth

end

/-! ### Where commas stand -/

/-- Whether a comma between two texts separates a group: it has exactly three digits behind it and one to
three digits before it, and these begin the text or follow a sign or another comma. -/
structure Separates (before behind : List Char) : Prop where
  three : (behind.takeWhile isDigit).length = 3
  some_digits : 1 ≤ (before.reverse.takeWhile isDigit).length
  few_digits : (before.reverse.takeWhile isDigit).length ≤ 3
  start : ∀ c ∈ (before.reverse.dropWhile isDigit).head?, c = '+' ∨ c = '-' ∨ c = ','

/-- A comma of an append is one of the first text or one of the second. -/
theorem exists_of_append_eq_append_comma {first second before behind : List Char}
    (h : first ++ second = before ++ ',' :: behind) :
    (∃ r, first = before ++ ',' :: r ∧ behind = r ++ second) ∨
      ∃ r, before = first ++ r ∧ second = r ++ ',' :: behind := by
  rcases List.append_eq_append_iff.mp h with ⟨r, rfl, hr⟩ | ⟨r, rfl, hr⟩
  · exact Or.inr ⟨r, rfl, hr⟩
  · cases r with
    | nil => exact Or.inr ⟨[], by simp, hr.symm⟩
    | cons c r =>
        obtain ⟨rfl, rfl⟩ := List.cons.inj hr
        exact Or.inl ⟨r, rfl, rfl⟩

theorem takeWhile_isDigit_append {digits rest : List Char} (hd : ∀ c ∈ digits, isDigit c = true)
    (hr : ∀ c ∈ rest.head?, isDigit c = false) :
    (digits ++ rest).takeWhile isDigit = digits ∧ (digits ++ rest).dropWhile isDigit = rest := by
  rw [List.takeWhile_append_of_pos hd, List.dropWhile_append_of_pos hd]
  cases rest with
  | nil => simp
  | cons c r =>
      have hc : ¬ isDigit c = true := by simp [hr c rfl]
      rw [List.takeWhile_cons_of_neg hc, List.dropWhile_cons_of_neg hc, List.append_nil]
      exact ⟨rfl, rfl⟩

/-- The characters after which the digits of an integer begin. -/
def BeginsDigits (start : List Char) : Prop :=
  ∀ c ∈ start.reverse.head?, c = '+' ∨ c = '-' ∨ c = ','

/-- A comma separates a group, if it is the one behind the leading digits and in front of three more. -/
theorem separates_of_digits {start digits three rest : List Char} (hstart : BeginsDigits start)
    (hd : ∀ c ∈ digits, isDigit c = true) (hpos : 1 ≤ digits.length) (hle : digits.length ≤ 3)
    (ht : ∀ c ∈ three, isDigit c = true) (hthree : three.length = 3)
    (hr : ∀ c ∈ rest.head?, isDigit c = false) : Separates (start ++ digits) (three ++ rest) := by
  have hbefore : ∀ c ∈ start.reverse.head?, isDigit c = false := by
    intro c hc
    rcases hstart c hc with rfl | rfl | rfl <;> decide
  have hfront := takeWhile_isDigit_append ht hr
  have hreverse : ∀ c ∈ digits.reverse, isDigit c = true := by simpa using hd
  have hend := takeWhile_isDigit_append hreverse hbefore
  rw [← List.reverse_append] at hend
  refine ⟨?_, ?_, ?_, ?_⟩
  · rw [hfront.1, hthree]
  · rwa [hend.1, List.length_reverse]
  · rwa [hend.1, List.length_reverse]
  · rwa [hend.2]

section
variable {cs start rest before behind : List Char} {ds : List Nat}

/-- Each comma of groups separates a group, if one to three digits stand before the first. -/
theorem GroupText.separates (h : GroupText cs ds) {digits : List Char} (hstart : BeginsDigits start)
    (hd : ∀ c ∈ digits, isDigit c = true) (hpos : 1 ≤ digits.length) (hle : digits.length ≤ 3)
    (hr : ∀ c ∈ rest.head?, isDigit c = false) (hc : cs = before ++ ',' :: behind) :
    Separates (start ++ digits ++ before) (behind ++ rest) := by
  induction h generalizing start digits before with
  | nil => exact absurd hc (by simp)
  | @cons a b c x y z r ds hx hy hz hgroups ih =>
      have hdigits : DigitText [a, b, c] [x, y, z] := .cons hx (.cons hy (.cons hz .nil))
      have hthree : ∀ d ∈ [a, b, c], isDigit d = true := fun _ => hdigits.isDigit_of_mem
      cases before with
      | nil =>
          obtain ⟨-, rfl⟩ := List.cons.inj hc
          have hrest : ∀ d ∈ (r ++ rest).head?, isDigit d = false := by
            cases hgroups with
            | nil => exact hr
            | cons =>
                rintro _ ⟨⟩
                decide
          rw [List.append_nil]
          show Separates (start ++ digits) ([a, b, c] ++ (r ++ rest))
          exact separates_of_digits hstart hd hpos hle hthree rfl hrest
      | cons _ before =>
          obtain ⟨rfl, hlater⟩ := List.cons.inj hc
          have happend : [a, b, c] ++ r = before ++ ',' :: behind := hlater
          rcases exists_of_append_eq_append_comma happend with ⟨q, hq, -⟩ | ⟨q, rfl, hq⟩
          · exact absurd hdigits.comma_not_mem (by simp [hq])
          · have hcomma : BeginsDigits (start ++ digits ++ [',']) := by simp [BeginsDigits]
            have hrest := ih hcomma hthree (Nat.le_of_ble_eq_true rfl) le_rfl hq
            simpa using hrest

theorem IntegerText.separates (h : IntegerText cs ds) (hstart : BeginsDigits start)
    (hr : ∀ c ∈ rest.head?, isDigit c = false) (hc : cs = before ++ ',' :: behind) :
    Separates (start ++ before) (behind ++ rest) := by
  cases h with
  | run h => exact absurd h.digits.comma_not_mem (by simp [hc])
  | @grouped first gs ds es h hpos hle hg hne =>
      have hdigits : ∀ c ∈ first, isDigit c = true := fun _ => h.isDigit_of_mem
      rcases exists_of_append_eq_append_comma hc with ⟨r, rfl, -⟩ | ⟨r, rfl, hg'⟩
      · exact absurd h.comma_not_mem (by simp)
      · rw [← h.length_eq] at hpos hle
        rw [← List.append_assoc]
        exact hg.separates hstart hdigits hpos hle hr hg'

theorem PointText.separates {fraction : Option (List Nat)} (h : PointText IntegerText cs ds fraction)
    (hstart : BeginsDigits start) (hr : ∀ c ∈ rest.head?, isDigit c = false)
    (hc : cs = before ++ ',' :: behind) : Separates (start ++ before) (behind ++ rest) := by
  cases h with
  | whole h => exact h.separates hstart hr hc
  | @point integer fs ds es h hf =>
      rcases exists_of_append_eq_append_comma hc with ⟨r, rfl, rfl⟩ | ⟨r, rfl, hr'⟩
      · have hpoint : ∀ c ∈ ('.' :: fs ++ rest).head?, isDigit c = false := by
          rintro _ ⟨⟩
          decide
        rw [List.append_assoc]
        exact h.separates hstart hpoint rfl
      · have hcomma : ',' ∈ '.' :: fs := by simp [hr']
        rcases List.mem_cons.mp hcomma with hcomma | hcomma
        · cases hcomma
        · exact absurd hcomma hf.comma_not_mem
  | @fraction fs es h =>
      have hcomma : ',' ∈ '.' :: fs := by simp [hc]
      rcases List.mem_cons.mp hcomma with hcomma | hcomma
      · cases hcomma
      · exact absurd hcomma h.digits.comma_not_mem

/-- **A comma of number text separates a group.** -/
theorem NumberText.separates {n : Numeral} (h : NumberText IntegerText cs n)
    (hc : cs = before ++ ',' :: behind) : Separates before behind := by
  obtain ⟨hs, hm, he⟩ := h
  have hsign {s : List Char} {negative : Bool} (h : SignText s negative) : BeginsDigits s := by
    cases h <;> simp [BeginsDigits]
  have hmark {e : List Char} {exponent : Option Int} (h : ExponentText e exponent) :
      ∀ c ∈ e.head?, isDigit c = false := by
    intro c hc
    rw [isDigit, (head?_of_exponentText h c hc).1]
    rfl
  rcases exists_of_append_eq_append_comma hc with ⟨r, rfl, -⟩ | ⟨r, rfl, hme⟩
  · exact absurd hs.comma_not_mem (by simp)
  · rcases exists_of_append_eq_append_comma hme with ⟨q, hcomma, rfl⟩ | ⟨q, -, rfl⟩
    · exact hm.separates (hsign hs) (hmark he) hcomma
    · exact absurd he.comma_not_mem (by simp)

end

/-! ### Construction -/

/-- A text that writes a decimal, or one of the values that stand for none: digits with a sign and an
exponent; a word for infinity; or a word for what is no number, with digits that tell more about it. -/
inductive DecimalText : List Char → ExtendedDecimal → Prop
  | finite {cs : List Char} {n : Numeral} (h : NumberText RunText cs n)
      (hr : n.toDecimal.inRange = true) : DecimalText cs (.finite n.toDecimal)
  | infinite {s word : List Char} {negative : Bool} (hs : SignText s negative)
      (hw : lower word = "inf".toList ∨ lower word = "infinity".toList) :
      DecimalText (s ++ word) (.infinite negative)
  | nan {s word cs : List Char} {signaling negative : Bool} {ds : List Nat}
      (hs : SignText s negative) (hw : lower word = if signaling then "snan".toList else "nan".toList)
      (h : DigitText cs ds) :
      DecimalText (s ++ (word ++ cs))
        (.nan signaling negative (if ofDigits ds = 0 then none else some (ofDigits ds)))

/-- Whether a text constructs a decimal, or one of the values that stand for none: without the white
space at its ends, and then without underscores, it writes it. -/
def Constructs (cs : List Char) (x : ExtendedDecimal) : Prop :=
  DecimalText ((trim cs).filter (· != '_')) x

theorem decimalText_finite_iff {cs : List Char} {d : Decimal} :
    DecimalText cs (.finite d) ↔
      ∃ n, NumberText RunText cs n ∧ n.toDecimal = d ∧ d.inRange = true := by
  constructor
  · intro h
    cases h with
    | finite h hr => exact ⟨_, h, rfl, hr⟩
  · rintro ⟨n, h, rfl, hr⟩
    exact .finite h hr

/-- Each of the words has a letter `n`. -/
theorem exists_of_decimalText {cs : List Char} {x : ExtendedDecimal} (h : DecimalText cs x) :
    (∃ d, x = .finite d) ∨ ∃ c ∈ cs, lowerChar c = 'n' := by
  have hletter {word : List Char} (h : 'n' ∈ lower word) : ∃ c ∈ word, lowerChar c = 'n' :=
    List.mem_map.mp h
  cases h with
  | finite h hr => exact Or.inl ⟨_, rfl⟩
  | infinite hs hw =>
      obtain ⟨c, hc, hn⟩ := hletter (by rcases hw with hw | hw <;> rw [hw] <;> decide)
      exact Or.inr ⟨c, List.mem_append_right _ hc, hn⟩
  | @nan s word cs signaling negative ds hs hw h =>
      obtain ⟨c, hc, hn⟩ := hletter (by rw [hw]; cases signaling <;> decide)
      exact Or.inr ⟨c, List.mem_append_right _ (List.mem_append_left _ hc), hn⟩

/-- Construction takes a text of the characters of numbers as it is. -/
theorem constructs_iff_of_codeIn {cs : List Char} (h : ∀ c ∈ cs, CodeIn numberRuns c.toNat)
    {x : ExtendedDecimal} : Constructs cs x ↔ DecimalText cs x := by
  have htrim : trim cs = cs := trim_eq_self fun c hc => isBlank_of_codeIn (h c hc)
  have hkept : cs.filter (· != '_') = cs := by
    refine List.filter_eq_self.mpr fun c hc => ?_
    rw [bne_iff_ne]
    rintro rfl
    exact absurd (h _ hc) (by decide)
  rw [Constructs, htrim, hkept]

/-- **Number text without its commas constructs the decimal that it writes,** if that is in range, and
nothing else. -/
theorem NumberText.constructs_iff {cs : List Char} {n : Numeral} (h : NumberText IntegerText cs n)
    {x : ExtendedDecimal} :
    Constructs (Verdict.withoutCommas cs) x ↔
      x = .finite n.toDecimal ∧ n.toDecimal.inRange = true := by
  have hplain := h.withoutCommas.of_runText
  rw [constructs_iff_of_codeIn hplain.codeIn]
  constructor
  · intro hx
    rcases exists_of_decimalText hx with ⟨d, rfl⟩ | ⟨c, hc, hn⟩
    · obtain ⟨m, hm, rfl, hr⟩ := decimalText_finite_iff.mp hx
      obtain rfl := hm.of_runText.unique hplain
      exact ⟨rfl, hr⟩
    · exact absurd (hplain.codeIn c hc) (not_codeIn_of_lowerChar hn)
  · rintro ⟨rfl, hr⟩
    exact .finite h.withoutCommas hr

/-- Number text constructs no infinity, and nothing that is no number. -/
theorem NumberText.not_constructs {cs : List Char} {n : Numeral} (h : NumberText IntegerText cs n)
    {x : ExtendedDecimal} (hx : ∀ d, x ≠ .finite d) : ¬ Constructs cs x := by
  rw [constructs_iff_of_codeIn h.codeIn]
  intro hc
  rcases exists_of_decimalText hc with ⟨d, rfl⟩ | ⟨c, hc, hn⟩
  · exact hx d rfl
  · exact absurd (h.codeIn c hc) (not_codeIn_of_lowerChar hn)

/-! ### What is read -/

theorem Decimal.ofText?_eq_some_iff {s : String} {d : Decimal} :
    ofText? s = some d ↔
      ∃ n, NumberText IntegerText (trim s.toList) n ∧ n.toDecimal = d ∧ d.inRange = true := by
  rw [ofText?, Option.bind_eq_some_iff]
  simp only [Numeral.ofChars?_eq_some_iff, Numeral.decimal?, Option.ite_none_right_eq_some,
    Option.some.injEq]
  constructor
  · rintro ⟨n, h, hr, rfl⟩
    exact ⟨n, h, rfl, hr⟩
  · rintro ⟨n, h, rfl, hr⟩
    exact ⟨n, h, hr, rfl⟩

/-- **What is read as a number, and as which.**  For the text of a string without the white space at its
ends, and that text without its commas:

- a string is read exactly if its text is number text of a decimal in range, and it is read as the decimal
  that its digits write;
- that decimal has the very value of the digits and the exponent, and the text without its commas is
  number text of the same numeral and is read the same;
- the grammar and construction agree: a string is read exactly if its text is number text and constructs
  a decimal once the commas are left out; number text constructs nothing else then, and only for its
  range may it construct nothing;
- a string that constructs an infinity or what is no number is not read;
- in a string that is read, each comma separates a group. -/
theorem number_text_exact (s : String) :
    let text := trim s.toList
    let plain := withoutCommas text
    let read := (Content.of (.text s)).number?
    (∀ d, read = some d ↔
      ∃ n, NumberText IntegerText text n ∧ n.toDecimal = d ∧ d.inRange = true) ∧
    (∀ n, NumberText IntegerText text n →
      n.toDecimal.value = n.value ∧ NumberText RunText plain n ∧
        (Content.of (.text (String.ofList plain))).number? = read) ∧
    (∀ d, read = some d ↔ (∃ n, NumberText IntegerText text n) ∧ Constructs plain (.finite d)) ∧
    (∀ n, NumberText IntegerText text n →
      ∀ x, Constructs plain x ↔ x = .finite n.toDecimal ∧ n.toDecimal.inRange = true) ∧
    (∀ x, (∀ d, x ≠ .finite d) → Constructs s.toList x → read = none) ∧
    (∀ before behind, text = before ++ ',' :: behind → read ≠ none → Separates before behind) := by
  intro text plain read
  have hread (d : Decimal) : read = some d ↔
      ∃ n, NumberText IntegerText text n ∧ n.toDecimal = d ∧ d.inRange = true :=
    Decimal.ofText?_eq_some_iff
  have hself {cs : List Char} {n : Numeral} (h : NumberText IntegerText cs n) : trim cs = cs :=
    trim_eq_self fun c hc => isBlank_of_codeIn (h.codeIn c hc)
  refine ⟨hread, fun n h => ⟨n.value_toDecimal, h.withoutCommas, ?_⟩, fun d => ?_,
    fun n h x => h.constructs_iff, fun x hx hc => ?_, fun before behind hc hsome => ?_⟩
  · have hplain := h.withoutCommas.of_runText
    refine Option.ext fun d => ?_
    rw [hread, Content.of, Content.number?, Decimal.ofText?_eq_some_iff, String.toList_ofList,
      hself hplain]
    constructor
    · rintro ⟨m, hm, hd⟩
      obtain rfl := hm.unique hplain
      exact ⟨m, h, hd⟩
    · rintro ⟨m, hm, hd⟩
      obtain rfl := hm.unique h
      exact ⟨m, hplain, hd⟩
  · rw [hread]
    constructor
    · rintro ⟨n, h, rfl, hr⟩
      exact ⟨⟨n, h⟩, h.constructs_iff.mpr ⟨rfl, hr⟩⟩
    · rintro ⟨⟨n, h⟩, hc⟩
      obtain ⟨hd, hr⟩ := h.constructs_iff.mp hc
      obtain rfl := ExtendedDecimal.finite.inj hd
      exact ⟨n, h, rfl, hr⟩
  · rw [Option.eq_none_iff_forall_ne_some]
    intro d hd
    obtain ⟨n, h, -⟩ := (hread d).mp hd
    have htext : Constructs text x := by rwa [Constructs, hself h]
    exact h.not_constructs hx htext
  · obtain ⟨d, hd⟩ := Option.ne_none_iff_exists'.mp hsome
    obtain ⟨n, h, -⟩ := (hread d).mp hd
    exact h.separates hc

end Verdict
