/-
# The ends of lines

The text of a file is read with every line ended by a line feed (`withLineFeeds`).  Line feeds and carriage
returns are blanks between the tokens of a JSON text, and no token holds either.  So whatever is taken
from the front of a text is taken from it with line feeds as well, and what follows is the same but for
the ends of its lines:

| taken | lemma |
| --- | --- |
| blanks | `skipBlanks_withLineFeeds` |
| a constant | `takeConstant?_withLineFeeds` |
| a number | `takeNumber?_withLineFeeds` |
| a text between quotes | `takeText_withLineFeeds` |
| a token | `takeToken?_withLineFeeds` |

A text is read with the same result (`read_withLineFeeds`).
-/

import Mathlib.Data.List.Find
import Verdict.Proofs.JsonReading
import Verdict.Registry.Basic

namespace Verdict

theorem withLineFeeds_cons {c : Char} (h : c ≠ '\r') (r : List Char) :
    withLineFeeds (c :: r) = c :: withLineFeeds r := by
  rw [withLineFeeds]
  · exact fun _ hc => absurd hc h
  · exact h

/-- Where a line ends with a carriage return, a line feed stands instead. -/
theorem exists_withLineFeeds_return (r : List Char) :
    ∃ s, withLineFeeds ('\r' :: r) = '\n' :: s := by
  cases r with
  | nil => exact ⟨_, rfl⟩
  | cons c r =>
      by_cases hc : c = '\n'
      · subst hc
        exact ⟨withLineFeeds r, by rw [withLineFeeds]⟩
      · refine ⟨withLineFeeds (c :: r), ?_⟩
        rw [withLineFeeds]
        exact fun _ h => hc (List.cons.inj h).1

/-- A text begins with a carriage return, or its first character stays. -/
theorem withLineFeeds_cases (cs : List Char) :
    cs = [] ∨ (∃ r s, cs = '\r' :: r ∧ withLineFeeds cs = '\n' :: s) ∨
      ∃ c r, c ≠ '\r' ∧ cs = c :: r ∧ withLineFeeds cs = c :: withLineFeeds r := by
  cases cs with
  | nil => exact Or.inl rfl
  | cons c r =>
      by_cases hc : c = '\r'
      · obtain ⟨s, hs⟩ := exists_withLineFeeds_return r
        exact Or.inr (Or.inl ⟨r, s, congrArg (· :: r) hc, hc ▸ hs⟩)
      · exact Or.inr (Or.inr ⟨c, r, hc, rfl, withLineFeeds_cons hc r⟩)

theorem withLineFeeds_append {p : List Char} (h : '\r' ∉ p) (r : List Char) :
    withLineFeeds (p ++ r) = p ++ withLineFeeds r := by
  induction p with
  | nil => rfl
  | cons c p ih =>
      rw [List.mem_cons, not_or] at h
      rw [List.cons_append, withLineFeeds_cons (Ne.symm h.1), ih h.2, List.cons_append]

/-- Front characters that are no line feeds come from the text as they are. -/
theorem exists_of_withLineFeeds_append {p s cs : List Char} (h : withLineFeeds cs = p ++ s)
    (hp : '\n' ∉ p) : ∃ r, cs = p ++ r ∧ s = withLineFeeds r := by
  induction p generalizing cs with
  | nil => exact ⟨cs, rfl, h.symm⟩
  | cons c p ih =>
      rw [List.mem_cons, not_or] at hp
      obtain rfl | ⟨r, t, rfl, ht⟩ | ⟨d, r, hd, rfl, hr⟩ := withLineFeeds_cases cs
      · cases h
      · exact absurd (List.cons.inj (ht.symm.trans h)).1 hp.1
      · obtain ⟨rfl, hs⟩ := List.cons.inj (hr.symm.trans h)
        obtain ⟨r, rfl, rfl⟩ := ih hs hp.2
        exact ⟨r, rfl, rfl⟩

theorem isPrefix_withLineFeeds_iff {p cs : List Char} (hr : '\r' ∉ p) (hn : '\n' ∉ p) :
    p <+: withLineFeeds cs ↔ p <+: cs := by
  constructor
  · rintro ⟨s, hs⟩
    obtain ⟨r, rfl, -⟩ := exists_of_withLineFeeds_append hs.symm hn
    exact ⟨r, rfl⟩
  · rintro ⟨r, rfl⟩
    exact ⟨withLineFeeds r, (withLineFeeds_append hr r).symm⟩

theorem isEmpty_withLineFeeds (cs : List Char) : (withLineFeeds cs).isEmpty = cs.isEmpty := by
  obtain rfl | ⟨r, s, rfl, h⟩ | ⟨c, r, -, rfl, h⟩ := withLineFeeds_cases cs
  · rfl
  · rw [h]
    rfl
  · rw [h]
    rfl

/-- Characters that are no ends of lines are taken from the front as they are. -/
theorem takeWhile_withLineFeeds {p : Char → Bool} (hr : p '\r' = false) (hn : p '\n' = false)
    (cs : List Char) : (withLineFeeds cs).takeWhile p = cs.takeWhile p := by
  fun_induction withLineFeeds cs with
  | case1 r | case2 r => simp [hr, hn]
  | case3 c r _ _ ih => simp [List.takeWhile_cons, ih]
  | case4 => rfl

/-- Dropping front characters does not tell the ends of lines apart. -/
theorem dropWhile_withLineFeeds {p : Char → Bool} (h : p '\n' = p '\r') (cs : List Char) :
    (withLineFeeds cs).dropWhile p = withLineFeeds (cs.dropWhile p) := by
  fun_induction withLineFeeds cs with
  | case1 r ih =>
      cases hr : p '\r' with
      | true => simp [hr, h, ih]
      | false => simp [hr, h, withLineFeeds]
  | case2 r hr ih =>
      cases hp : p '\r' with
      | true => simp [hp, h, ih]
      | false => simp [hp, h, withLineFeeds]
  | case3 c r _ hc ih =>
      cases hp : p c with
      | true => simp [hp, ih]
      | false => simp [hp, withLineFeeds_cons hc]
  | case4 => rfl

namespace Json

open Text

/-- Blanks are told from other characters, not from each other. -/
theorem skipBlanks_withLineFeeds (cs : List Char) :
    skipBlanks (withLineFeeds cs) = withLineFeeds (skipBlanks cs) :=
  dropWhile_withLineFeeds rfl cs

theorem noLineEnds_of_mem_constants {p : List Char × Value} (h : p ∈ constants) :
    '\r' ∉ p.1 ∧ '\n' ∉ p.1 := by
  simp only [constants, List.mem_cons, List.not_mem_nil, or_false] at h
  rcases h with rfl | rfl | rfl | rfl | rfl | rfl <;> decide

theorem takeConstant?_withLineFeeds (cs : List Char) :
    takeConstant? (withLineFeeds cs) = (takeConstant? cs).map (Prod.map id withLineFeeds) := by
  have hfind : constants.find? (fun p => p.1.isPrefixOf (withLineFeeds cs)) =
      constants.find? fun p => p.1.isPrefixOf cs := by
    refine List.find?_congr fun p hp => Bool.eq_iff_iff.mpr ?_
    obtain ⟨hr, hn⟩ := noLineEnds_of_mem_constants hp
    rw [List.isPrefixOf_iff_prefix, List.isPrefixOf_iff_prefix, isPrefix_withLineFeeds_iff hr hn]
  rw [takeConstant?, takeConstant?, hfind, Option.map_map]
  refine Option.map_congr fun p hp => ?_
  obtain ⟨hr, -⟩ := noLineEnds_of_mem_constants (List.mem_of_find?_eq_some hp)
  have hprefix := List.find?_some hp
  obtain ⟨r, rfl⟩ := List.isPrefixOf_iff_prefix.mp hprefix
  dsimp only [Function.comp, Prod.map, id]
  rw [withLineFeeds_append hr, List.drop_left, List.drop_left]

/-! ### Numbers -/

theorem digitsOf_withLineFeeds (cs : List Char) : digitsOf (withLineFeeds cs) = digitsOf cs := by
  rw [digitsOf, takeWhile_withLineFeeds rfl rfl, digitsOf]

theorem afterDigits_withLineFeeds (cs : List Char) :
    afterDigits (withLineFeeds cs) = withLineFeeds (afterDigits cs) :=
  dropWhile_withLineFeeds rfl cs

theorem takeWhole?_withLineFeeds (cs : List Char) :
    takeWhole? (withLineFeeds cs) = (takeWhole? cs).map (Prod.map id withLineFeeds) := by
  obtain rfl | ⟨r, s, rfl, h⟩ | ⟨c, r, -, rfl, h⟩ := withLineFeeds_cases cs
  · rfl
  · rw [h]
    rfl
  · have hdigits := digitsOf_withLineFeeds (c :: r)
    rw [h] at hdigits ⊢
    by_cases hz : c = '0'
    · subst hz
      rfl
    · rw [takeWhole?, takeWhole?, hdigits, afterDigits_withLineFeeds]
      · split <;> rfl
      · exact hz
      · exact hz

theorem takeFraction_withLineFeeds (cs : List Char) :
    takeFraction (withLineFeeds cs) = Prod.map id withLineFeeds (takeFraction cs) := by
  obtain rfl | ⟨r, s, rfl, h⟩ | ⟨c, r, -, rfl, h⟩ := withLineFeeds_cases cs
  · rfl
  · rw [h]
    change (none, '\n' :: s) = (none, withLineFeeds ('\r' :: r))
    rw [h]
  · by_cases hp : c = '.'
    · subst hp
      rw [h, takeFraction, takeFraction, digitsOf_withLineFeeds, afterDigits_withLineFeeds]
      split
      · exact congrArg (Prod.mk none) h.symm
      · rfl
    · rw [h, takeFraction, takeFraction]
      · exact congrArg (Prod.mk none) h.symm
      · simpa using hp
      · simpa using hp

theorem takeSign_withLineFeeds (cs : List Char) :
    takeSign (withLineFeeds cs) = Prod.map id withLineFeeds (takeSign cs) := by
  obtain rfl | ⟨r, s, rfl, h⟩ | ⟨c, r, -, rfl, h⟩ := withLineFeeds_cases cs
  · rfl
  · rw [h]
    exact congrArg (Prod.mk false) h.symm
  · by_cases hp : c = '-' ∨ c = '+'
    · rw [h]
      rcases hp with rfl | rfl <;> rfl
    · rw [not_or] at hp
      rw [h, takeSign, takeSign]
      · exact congrArg (Prod.mk false) h.symm
      all_goals simp [hp]

theorem takeExponent_withLineFeeds (cs : List Char) :
    takeExponent (withLineFeeds cs) = Prod.map id withLineFeeds (takeExponent cs) := by
  obtain rfl | ⟨r, s, rfl, h⟩ | ⟨c, r, -, rfl, h⟩ := withLineFeeds_cases cs
  · rfl
  · rw [h]
    exact congrArg (Prod.mk none) h.symm
  · rw [h, takeExponent, takeExponent, takeSign_withLineFeeds]
    dsimp only [Prod.map]
    rw [digitsOf_withLineFeeds, afterDigits_withLineFeeds]
    split
    · rfl
    · exact congrArg (Prod.mk none) h.symm

theorem takeUnsigned?_withLineFeeds (negative : Bool) (cs : List Char) :
    takeUnsigned? negative (withLineFeeds cs) =
      (takeUnsigned? negative cs).map (Prod.map id withLineFeeds) := by
  rw [takeUnsigned?, takeUnsigned?, takeWhole?_withLineFeeds, Option.map_map, Option.map_map]
  refine Option.map_congr fun p _ => ?_
  obtain ⟨whole, r⟩ := p
  dsimp only [Function.comp, Prod.map, id]
  rw [takeFraction_withLineFeeds]
  dsimp only [Prod.map, id]
  rw [takeExponent_withLineFeeds]
  rfl

theorem takeNumber?_withLineFeeds (cs : List Char) :
    takeNumber? (withLineFeeds cs) = (takeNumber? cs).map (Prod.map id withLineFeeds) := by
  obtain rfl | ⟨r, s, rfl, h⟩ | ⟨c, r, -, rfl, h⟩ := withLineFeeds_cases cs
  · rfl
  · rw [h]
    rfl
  · by_cases hp : c = '-'
    · subst hp
      rw [h]
      exact takeUnsigned?_withLineFeeds true r
    · rw [takeNumber?, takeNumber?, takeUnsigned?_withLineFeeds]
      · simpa using hp
      · simpa [h] using hp

/-! ### Texts between quotes -/

/-- The code unit that the first four characters of a text write, and what follows them. -/
def takeDigits? : List Char → Option (Nat × List Char)
  | a :: b :: c :: d :: r => (unit? a b c d).map fun n => (n, r)
  | _ => none

/-- The character after `\u` is that of one unit, or of two that make up a surrogate pair. -/
theorem takeUnit?_eq (cs : List Char) :
    takeUnit? cs = (takeDigits? cs).map fun (high, r) =>
      match r with
      | '\\' :: 'u' :: r' =>
        match takeDigits? r' with
        | some (low, s) =>
          if isHighSurrogate high && isLowSurrogate low then (pairChar high low, s)
          else (unitChar high, r)
        | none => (unitChar high, r)
      | _ => (unitChar high, r) := by
  unfold takeUnit?
  split
  · next a b c d r =>
    rw [takeDigits?, Option.map_map]
    refine Option.map_congr fun high _ => ?_
    dsimp only [Function.comp]
    split
    · next e f g h s =>
      cases hu : unit? e f g h <;> simp [takeDigits?, hu]
    · next hne =>
      split
      · next r' =>
        have hnone : takeDigits? r' = none := by
          unfold takeDigits?
          split
          · exact absurd rfl (hne _ _ _ _ _)
          · rfl
        rw [hnone]
      · rfl
  · next hne =>
    unfold takeDigits?
    split
    · exact absurd rfl (hne _ _ _ _ _)
    · rfl

theorem unit?_withoutLineEnds {a b c d : Char} {n : Nat} (h : unit? a b c d = some n) :
    '\r' ∉ [a, b, c, d] ∧ '\n' ∉ [a, b, c, d] := by
  have hdigit {x : Char} (hx : x = '\r' ∨ x = '\n') : hexDigit? x = none := by
    rcases hx with rfl | rfl <;> rfl
  unfold unit? at h
  split at h
  · next ha hb hc hd =>
    constructor
    all_goals
      intro hmem
      simp only [List.mem_cons, List.not_mem_nil, or_false] at hmem
      rcases hmem with rfl | rfl | rfl | rfl <;> simp_all
  · cases h

theorem takeDigits?_eq_some_iff {cs r : List Char} {n : Nat} :
    takeDigits? cs = some (n, r) ↔
      ∃ a b c d, cs = [a, b, c, d] ++ r ∧ unit? a b c d = some n := by
  constructor
  · intro h
    unfold takeDigits? at h
    split at h
    · next a b c d s =>
      obtain ⟨n, hunit, ⟨⟩⟩ := Option.map_eq_some_iff.mp h
      exact ⟨a, b, c, d, rfl, hunit⟩
    · cases h
  · rintro ⟨a, b, c, d, rfl, hunit⟩
    exact Option.map_eq_some_iff.mpr ⟨n, hunit, rfl⟩

theorem takeDigits?_withLineFeeds (cs : List Char) :
    takeDigits? (withLineFeeds cs) = (takeDigits? cs).map (Prod.map id withLineFeeds) := by
  ext1 ⟨n, s⟩
  rw [takeDigits?_eq_some_iff, Option.map_eq_some_iff]
  constructor
  · rintro ⟨a, b, c, d, h, hunit⟩
    obtain ⟨r, rfl, rfl⟩ := exists_of_withLineFeeds_append h (unit?_withoutLineEnds hunit).2
    exact ⟨(n, r), takeDigits?_eq_some_iff.mpr ⟨a, b, c, d, rfl, hunit⟩, rfl⟩
  · rintro ⟨⟨n, r⟩, h, ⟨⟩⟩
    obtain ⟨a, b, c, d, rfl, hunit⟩ := takeDigits?_eq_some_iff.mp h
    exact ⟨a, b, c, d, withLineFeeds_append (unit?_withoutLineEnds hunit).1 r, hunit⟩

theorem takeUnit?_withLineFeeds (cs : List Char) :
    takeUnit? (withLineFeeds cs) = (takeUnit? cs).map (Prod.map id withLineFeeds) := by
  rw [takeUnit?_eq, takeUnit?_eq, takeDigits?_withLineFeeds, Option.map_map, Option.map_map]
  refine Option.map_congr fun (high, r) _ => ?_
  dsimp only [Function.comp, Prod.map, id]
  by_cases hr : ['\\', 'u'] <+: r
  · obtain ⟨r, rfl⟩ := hr
    rw [withLineFeeds_append (by decide)]
    simp only [List.cons_append, List.nil_append]
    rw [takeDigits?_withLineFeeds]
    have hrest : withLineFeeds ('\\' :: 'u' :: r) = '\\' :: 'u' :: withLineFeeds r :=
      withLineFeeds_append (p := ['\\', 'u']) (by decide) r
    cases takeDigits? r with
    | none => exact congrArg (Prod.mk (unitChar high)) hrest.symm
    | some low =>
        dsimp only [Option.map_some, Prod.map, id]
        by_cases hpair : (isHighSurrogate high && isLowSurrogate low.1) = true
        · rw [if_pos hpair, if_pos hpair]
        · rw [if_neg hpair, if_neg hpair]
          exact congrArg (Prod.mk (unitChar high)) hrest.symm
  · have hne (s : List Char) : r ≠ '\\' :: 'u' :: s := fun h => hr ⟨s, h.symm⟩
    have hne' (s : List Char) : withLineFeeds r ≠ '\\' :: 'u' :: s := fun h =>
      hr ((isPrefix_withLineFeeds_iff (by decide) (by decide)).mp ⟨s, h.symm⟩)
    split
    · next h => exact absurd h (hne' _)
    · rfl

theorem takeChar?_withLineFeeds (cs : List Char) :
    takeChar? (withLineFeeds cs) = (takeChar? cs).map (Prod.map id withLineFeeds) := by
  obtain rfl | ⟨r, s, rfl, h⟩ | ⟨c, r, -, rfl, h⟩ := withLineFeeds_cases cs
  · rfl
  · rw [h]
    rfl
  · by_cases hc : c = '\\'
    · subst hc
      obtain rfl | ⟨r, s, rfl, hr⟩ | ⟨d, r, -, rfl, hr⟩ := withLineFeeds_cases r
      · rfl
      · rw [h, hr]
        rfl
      · by_cases hd : d = 'u'
        · subst hd
          rw [h, hr]
          exact takeUnit?_withLineFeeds r
        · rw [h, hr, takeChar?, takeChar?, Option.map_map]
          · rfl
          · exact hd
          · exact hd
    · rw [h, takeChar?, takeChar?]
      · split <;> rfl
      all_goals simp [hc]

theorem withLineFeeds_ne_quote {cs : List Char} (h : ∀ r, cs = '\x22' :: r → False) (s : List Char) :
    withLineFeeds cs ≠ '\x22' :: s := by
  intro hs
  obtain ⟨r, rfl, -⟩ := exists_of_withLineFeeds_append (p := ['\x22']) hs (by decide)
  exact h r rfl

theorem takeText_withLineFeeds (read cs : List Char) :
    takeText read (withLineFeeds cs) = (takeText read cs).map (Prod.map id withLineFeeds) := by
  fun_induction takeText read cs with
  | case1 read r =>
      rw [withLineFeeds_cons (by decide), takeText]
      rfl
  | case2 read cs hquote c r hc ih =>
      have hc' := takeChar?_withLineFeeds cs
      rw [hc] at hc'
      exact (takeText_of_takeChar? hc' (withLineFeeds_ne_quote hquote) read).trans ih
  | case3 read cs hquote hc =>
      have hc' := takeChar?_withLineFeeds cs
      rw [hc] at hc'
      rw [takeText]
      · split
        · next h => cases hc'.symm.trans h
        · rfl
      · exact withLineFeeds_ne_quote hquote

/-! ### Tokens -/

theorem takeToken?_withLineFeeds (cs : List Char) :
    takeToken? (withLineFeeds cs) = (takeToken? cs).map (Prod.map id withLineFeeds) := by
  obtain rfl | ⟨r, s, rfl, h⟩ | ⟨c, r, -, rfl, h⟩ := withLineFeeds_cases cs
  · rfl
  · rw [h]
    rfl
  · by_cases hmark : c ∈ ['[', ']', '\x7b', '\x7d', ',', ':']
    · rw [h]
      simp only [List.mem_cons, List.not_mem_nil, or_false] at hmark
      rcases hmark with rfl | rfl | rfl | rfl | rfl | rfl <;> rfl
    · by_cases hquote : c = '\x22'
      · subst hquote
        rw [h, takeToken?, takeToken?, takeText_withLineFeeds, Option.map_map, Option.map_map]
        rfl
      · have hconstant := takeConstant?_withLineFeeds (c :: r)
        have hnumber := takeNumber?_withLineFeeds (c :: r)
        simp only [List.mem_cons, List.not_mem_nil, or_false, not_or] at hmark
        rw [h] at hconstant hnumber ⊢
        rw [takeToken?, takeToken?, hconstant, hnumber]
        · cases takeConstant? (c :: r) with
          | none =>
              simp only [Option.map_none, Option.map_map]
              rfl
          | some p => rfl
        all_goals simp [hmark, hquote]

/-- The reader takes the tokens of the text, and goes on with line feeds in what follows. -/
theorem run_withLineFeeds_eq (d : Dialect) (st : State) (cs : List Char) :
    run d st (withLineFeeds cs) =
      if (skipBlanks cs).isEmpty then finish st
      else
        match takeToken? (skipBlanks cs) with
        | none => .error .malformed
        | some (t, r) => (step d st t).bind fun st => run d st (withLineFeeds r) := by
  rw [run_eq, skipBlanks_withLineFeeds, isEmpty_withLineFeeds, takeToken?_withLineFeeds]
  cases takeToken? (skipBlanks cs) <;> rfl

/-- **A text is read alike** with every line ended by a line feed. -/
theorem run_withLineFeeds (d : Dialect) (st : State) (cs : List Char) :
    run d st (withLineFeeds cs) = run d st cs := by
  fun_induction run d st cs with
  | case1 st cs hb => rw [run_withLineFeeds_eq, if_pos hb]
  | case2 st cs hb ht => rw [run_withLineFeeds_eq, if_neg hb, ht]
  | case3 st cs hb t r ht next hn ih =>
      rw [run_withLineFeeds_eq, if_neg hb, ht]
      dsimp only
      rw [hn]
      exact ih
  | case4 st cs hb t r ht e he =>
      rw [run_withLineFeeds_eq, if_neg hb, ht]
      dsimp only
      rw [he]
      rfl

theorem read_withLineFeeds (d : Dialect) (cs : List Char) :
    read d (withLineFeeds cs) = read d cs :=
  run_withLineFeeds d _ cs

end Json
end Verdict
