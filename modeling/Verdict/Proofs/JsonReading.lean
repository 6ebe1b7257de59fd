/-
# Reading what was written

Rules are read from any JSON text of a value as that value, with one change: a finite binary64 number is
read as the decimal that its text writes (`Value.exact`).

| state of the reader | text before it | state after |
| --- | --- | --- |
| a value may begin | of a value | behind the value |
| the first item, or the next, may begin | of the items of a list, and the bracket that ends it | behind the list |
| the first name, or the next, may begin | of the members of an object, and the brace that ends it | behind the object |

The value must be one that rules can have in their text (`Value.IsWritten`): JSON knows it, its integers
are not too long, and no object in it has two members of one name.
-/

import Verdict.Json.Reader
import Verdict.Proofs.BinaryRange
import Verdict.Proofs.EncodedText
import Verdict.Proofs.JsonNumber
import Verdict.Proofs.JsonText

namespace Verdict

namespace Value

/-- Values that rules can have in their text. -/
inductive IsWritten : Value → Prop
  | null : IsWritten .null
  | bool (b : Bool) : IsWritten (.bool b)
  | int {n : Int} (h : digitCount n.natAbs ≤ maxIntegerDigits) : IsWritten (.int n)
  | float (x : Binary64) : IsWritten (.float x)
  | text (s : String) : IsWritten (.text s)
  | list {items : List Value} (h : ∀ v ∈ items, IsWritten v) : IsWritten (.list items)
  | object {fields : List (String × Value)} (hnames : (fields.map Prod.fst).Nodup)
      (h : ∀ f ∈ fields, IsWritten f.2) : IsWritten (.object fields)

attribute [simp] IsWritten.null IsWritten.bool IsWritten.float IsWritten.text

@[simp] theorem isWritten_list {items : List Value} :
    IsWritten (.list items) ↔ ∀ v ∈ items, v.IsWritten :=
  ⟨fun | .list h => h, .list⟩

@[simp] theorem isWritten_object {fields : List (String × Value)} :
    IsWritten (.object fields) ↔ (fields.map Prod.fst).Nodup ∧ ∀ f ∈ fields, f.2.IsWritten :=
  ⟨fun | .object hnames h => ⟨hnames, h⟩, fun h => .object h.1 h.2⟩

mutual

/-- A value with its finite binary64 numbers as decimals, and one value that is not a number. -/
def exact : Value → Value
  | .float x =>
    if x.isFinite then .decimal (.finite x.toDecimal)
    else if x.isNan then .float Binary64.nan
    else .float x
  | .list items => .list (exactItems items)
  | .object fields => .object (exactFields fields)
  | v => v

/-- The items of a list, each so. -/
def exactItems : List Value → List Value
  | [] => []
  | v :: r => v.exact :: exactItems r

/-- The members of an object, each so. -/
def exactFields : List (String × Value) → List (String × Value)
  | [] => []
  | (k, v) :: r => (k, v.exact) :: exactFields r

end

theorem putField_of_not_mem {name : String} {fields : List (String × Value)} (value : Value)
    (h : name ∉ fields.map Prod.fst) : putField name value fields = fields ++ [(name, value)] := by
  induction fields with
  | nil => rfl
  | cons f r ih =>
      obtain ⟨k, v⟩ := f
      rw [List.map_cons, List.mem_cons, not_or] at h
      rw [putField, if_neg (Ne.symm h.1), ih h.2]
      rfl

end Value

namespace Json

open Text

/-! ### Taking tokens -/

theorem takeUnit?_append_of_not_high {a₁ a₂ a₃ a₄ : Char} {n : Nat}
    (h : unit? a₁ a₂ a₃ a₄ = some n) (hn : isHighSurrogate n = false) (rest : List Char) :
    takeUnit? (a₁ :: a₂ :: a₃ :: a₄ :: rest) = some (unitChar n, rest) := by
  rw [takeUnit?, h, Option.map_some]
  split
  · split
    · simp [hn]
    · rfl
  · rfl

theorem isHighSurrogate_toNat (c : Char) : isHighSurrogate c.toNat = false := by
  have hvalid := c.valid
  simp only [isHighSurrogate, Bool.and_eq_false_iff, decide_eq_false_iff_not]
  rw [UInt32.isValidChar, Nat.isValidChar] at hvalid
  change ¬ 0xD800 ≤ c.val.toNat ∨ ¬ c.val.toNat < 0xDC00
  omega

theorem unitChar_toNat (c : Char) : unitChar c.toNat = c := by
  rw [unitChar, charOf?_toNat, Option.getD_some]

/-- **A character is taken however it is written.** -/
theorem takeChar?_append {c : Char} {cs : List Char} (h : WritesChar c cs) (rest : List Char) :
    takeChar? (cs ++ rest) = some (c, rest) := by
  cases h with
  | plain hcontrol hquote hbackslash =>
      rw [List.singleton_append, takeChar?, if_neg hcontrol]
      all_goals
        intros
        simp_all
  | @letter e c h =>
      have hu : e ≠ 'u' := by
        rintro rfl
        cases h
      change takeChar? ('\\' :: e :: rest) = _
      rw [takeChar?, h]
      · rfl
      · exact hu
  | unit h =>
      have hunit := takeUnit?_append_of_not_high h (isHighSurrogate_toNat c) rest
      rw [unitChar_toNat] at hunit
      simp only [List.cons_append, List.nil_append, takeChar?, hunit]
  | pair hh hl ha hb =>
      simp only [List.cons_append, List.nil_append, takeChar?, takeUnit?, ha, hb, hh, hl,
        Bool.and_self, Option.map_some, if_true]

/-- What writes a character is no quote. -/
theorem exists_cons_of_writesChar {c : Char} {cs : List Char} (h : WritesChar c cs) :
    ∃ d r, cs = d :: r ∧ d ≠ '\x22' := by
  cases h with
  | plain _ hquote => exact ⟨_, _, rfl, hquote⟩
  | letter | unit | pair => exact ⟨_, _, rfl, by decide⟩

theorem takeText_of_takeChar? {c : Char} {cs r : List Char} (h : takeChar? cs = some (c, r))
    (hquote : ∀ r, cs ≠ '\x22' :: r) (read : List Char) :
    takeText read cs = takeText (c :: read) r := by
  rw [takeText]
  · split
    · next heq =>
      obtain ⟨rfl, rfl⟩ := Prod.mk.inj (Option.some.inj (h.symm.trans heq))
      rfl
    · next heq => cases h.symm.trans heq
  · exact hquote

theorem takeText_append {s cs : List Char} (h : WritesChars s cs) (read rest : List Char) :
    takeText read (cs ++ '\x22' :: rest) = some (read.reverse ++ s, rest) := by
  induction h generalizing read with
  | nil => rw [List.nil_append, takeText, List.append_nil]
  | @cons c s cs r first _ ih =>
      obtain ⟨d, cs', rfl, hd⟩ := exists_cons_of_writesChar first
      rw [List.append_assoc, takeText_of_takeChar? (takeChar?_append first _), ih,
        List.reverse_cons, List.append_assoc, List.singleton_append]
      exact fun _ heq => hd (List.cons.inj heq).1

theorem takeToken?_text {s : String} {cs : List Char} (h : WritesText s cs) (rest : List Char) :
    takeToken? (cs ++ rest) = some (.text s, rest) := by
  obtain ⟨inside, hinside, rfl⟩ := h
  rw [List.cons_append, List.append_assoc, takeToken?]
  rw [List.singleton_append, takeText_append hinside, Option.map_some, List.reverse_nil,
    List.nil_append, String.ofList_toList]

theorem takeToken?_constant {p : List Char × Value} (h : p ∈ constants) (rest : List Char) :
    takeToken? (p.1 ++ rest) = some (.constant p.2, rest) := by
  simp only [constants, List.mem_cons, List.not_mem_nil, or_false] at h
  rcases h with rfl | rfl | rfl | rfl | rfl | rfl <;> rfl

/-! ### Steps of the reader -/

theorem skipBlanks_append {blanks : List Char} (h : Blanks blanks) (cs : List Char) :
    skipBlanks (blanks ++ cs) = skipBlanks cs :=
  List.dropWhile_append_of_pos h

/-- No token begins with a blank. -/
theorem takeToken?_blank {c : Char} (h : isBlank c = true) (r : List Char) :
    takeToken? (c :: r) = none := by
  simp only [isBlank, Bool.or_eq_true, beq_iff_eq] at h
  rcases h with ((rfl | rfl) | rfl) | rfl <;> rfl

section
variable {d : Dialect} {st next : State} {cs r : List Char} {t : Token}

/-- The reader takes the token behind the blanks, and goes on with what follows it. -/
theorem run_eq (d : Dialect) (st : State) (cs : List Char) :
    run d st cs =
      if (skipBlanks cs).isEmpty then finish st
      else
        match takeToken? (skipBlanks cs) with
        | none => .error .malformed
        | some (t, r) => (step d st t).bind fun st => run d st r := by
  rw [run]
  split
  · rfl
  · split
    · next h => rw [h]
    · next t r h =>
      rw [h]
      dsimp only
      cases step d st t <;> rfl

theorem run_append_blanks {blanks : List Char} (h : Blanks blanks) :
    run d st (blanks ++ cs) = run d st cs := by
  rw [run_eq, skipBlanks_append h, ← run_eq]

/-- **A token takes the reader one step further.** -/
theorem run_of_takeToken? (ht : takeToken? cs = some (t, r)) (hs : step d st t = .ok next) :
    run d st cs = run d next r := by
  cases cs with
  | nil => cases ht
  | cons c cs =>
      have hskip : skipBlanks (c :: cs) = c :: cs :=
        List.dropWhile_cons_of_neg fun hc => by cases (takeToken?_blank hc cs).symm.trans ht
      rw [run_eq, hskip, ht, if_neg (by simp)]
      dsimp only
      rw [hs]
      rfl

theorem run_of_blanks (h : Blanks cs) : run d st cs = finish st := by
  have hskip := skipBlanks_append h []
  rw [List.append_nil] at hskip
  rw [run_eq, hskip]
  rfl

end

/-! ### Reading values -/

/-- Whether a value may begin inside the open frames, with the first token of it or a later one. -/
inductive BeginsValue : State → List Frame → Prop
  | value (stack : List Frame) : BeginsValue (.value stack) stack
  | firstItem (stack : List Frame) : BeginsValue (.firstItem stack) (.items [] :: stack)

/-- Whether reading any text of a value takes the reader behind the value. -/
def ReadsBack (v : Value) : Prop :=
  ∀ cs, Writes v cs → ∀ st stack, BeginsValue st stack →
    stack.length + v.nesting ≤ maxNesting → ∀ rest, EndsNumber rest →
      run .rules st (cs ++ rest) = run .rules (.after v.exact stack) rest

variable {st : State} {stack : List Frame}

theorem step_of_beginsValue (h : BeginsValue st stack) {t : Token} (ht : t ≠ .closeList) :
    step .rules st t = beginValue .rules stack t := by
  cases h with
  | value => rfl
  | firstItem stack =>
      cases t with
      | closeList => exact absurd rfl ht
      | _ => rfl

theorem opened_of_lt {st : State} (h : stack.length < maxNesting) : opened .rules stack st = .ok st :=
  if_pos (by simpa [Dialect.rules] using h)

/-- A value that is one token. -/
theorem run_of_scalar (h : BeginsValue st stack) {t : Token} {cs rest : List Char} {v : Value}
    (ht : takeToken? (cs ++ rest) = some (t, rest)) (hne : t ≠ .closeList)
    (hv : beginValue .rules stack t = .ok (.after v stack)) :
    run .rules st (cs ++ rest) = run .rules (.after v stack) rest :=
  run_of_takeToken? ht ((step_of_beginsValue h hne).trans hv)

theorem run_of_constant (h : BeginsValue st stack) {p : List Char × Value} (hp : p ∈ constants)
    (rest : List Char) : run .rules st (p.1 ++ rest) = run .rules (.after p.2 stack) rest :=
  run_of_scalar h (takeToken?_constant hp rest) nofun rfl

theorem readsBack_null : ReadsBack .null := by
  rintro _ rfl st stack hst - rest -
  exact run_of_constant (p := ("null".toList, .null)) hst (by simp [constants]) rest

theorem readsBack_bool (b : Bool) : ReadsBack (.bool b) := by
  rintro _ rfl st stack hst - rest -
  cases b with
  | true => exact run_of_constant (p := ("true".toList, .bool true)) hst (by simp [constants]) rest
  | false =>
      exact run_of_constant (p := ("false".toList, .bool false)) hst (by simp [constants]) rest

theorem readsBack_text (s : String) : ReadsBack (.text s) := by
  rintro cs hcs st stack hst - rest -
  exact run_of_scalar hst (takeToken?_text hcs rest) nofun rfl

/-- **An integer that is not too long** is read as itself. -/
theorem readsBack_int {n : Int} (h : digitCount n.natAbs ≤ Value.maxIntegerDigits) :
    ReadsBack (.int n) := by
  rintro _ rfl st stack hst - rest hrest
  refine run_of_scalar hst (takeToken?_integerText n hrest) nofun ?_
  have hvalue : numberValue .rules (integerNumeral n) = .ok (.int n) := by
    have hdigits : Dialect.rules.maxDigits.all ((integerNumeral n).whole.length ≤ ·) = true := by
      simpa [Dialect.rules, length_integerNumeral] using h
    have hinteger : (integerNumeral n).isInteger = true := rfl
    rw [numberValue, if_pos hinteger, if_pos hdigits, toInt_integerNumeral]
  rw [beginValue, hvalue]
  rfl

/-- **A binary64 number** is read as the decimal that its text writes, or as itself where it is not
finite. -/
theorem readsBack_float (x : Binary64) : ReadsBack (.float x) := by
  rintro _ rfl st stack hst - rest hrest
  unfold writtenFloat Value.exact
  by_cases hfinite : x.isFinite = true
  · have hnan : ¬ x.isNan = true := by
      simp only [Binary64.isFinite, Binary64.isNan, decide_eq_true_eq] at hfinite ⊢
      omega
    obtain ⟨n, hn, hd, htake⟩ := exists_takeToken?_finiteChars x
    have hchars : x.text.toList = x.finiteChars := by
      rw [Binary64.text, if_neg hnan, if_pos hfinite, String.toList_ofList]
    rw [if_neg hnan, if_pos hfinite, if_pos hfinite, hchars]
    refine run_of_scalar hst (htake rest hrest) (by simp) ?_
    have hvalue : numberValue .rules n = .ok (.decimal (.finite x.toDecimal)) := by
      have hdecimal : n.decimal? = some x.toDecimal := by
        rw [Numeral.decimal?, hd, if_pos (Binary64.inRange_toDecimal hfinite)]
      rw [numberValue, hn, hdecimal]
      rfl
    rw [beginValue, hvalue]
    rfl
  · rw [if_neg hfinite, if_neg hfinite]
    split
    · exact run_of_constant (p := ("NaN".toList, .float Binary64.nan)) hst (by simp [constants]) rest
    · next hnan =>
      have hinfinite : x = Binary64.infinity x.negative := by
        obtain ⟨negative, magnitude⟩ := x
        simp only [Binary64.isFinite, Binary64.isNan, decide_eq_true_eq] at hfinite hnan
        simp only [Binary64.infinity, Binary64.mk.injEq, true_and]
        exact Fin.ext (by dsimp only; omega)
      generalize x.negative = negative at hinfinite
      subst hinfinite
      cases negative with
      | true =>
          exact run_of_constant (p := ("-Infinity".toList, .float (Binary64.infinity true))) hst
            (by simp [constants]) rest
      | false =>
          exact run_of_constant (p := ("Infinity".toList, .float (Binary64.infinity false))) hst
            (by simp [constants]) rest

/-! ### Reading lists and objects -/

theorem endsNumber_append {blanks rest : List Char} (h : Blanks blanks) (hr : EndsNumber rest) :
    EndsNumber (blanks ++ rest) := by
  cases blanks with
  | nil => exact hr
  | cons b blanks =>
      rintro _ ⟨⟩
      have hb := h b List.mem_cons_self
      simp only [isBlank, Bool.or_eq_true, beq_iff_eq] at hb
      rcases hb with ((rfl | rfl) | rfl) | rfl <;> decide

theorem endsNumber_cons {c : Char} (hc : c = ',' ∨ c = ']' ∨ c = '\x7d') (rest : List Char) :
    EndsNumber (c :: rest) := by
  rintro _ ⟨⟩
  rcases hc with rfl | rfl | rfl <;> decide

/-- Blanks around a value, and before what ends it, are of no account. -/
theorem run_of_padded {v : Value} (hv : ReadsBack v) {cs : List Char} (hcs : Padded (Writes v) cs)
    (hst : BeginsValue st stack) (hdepth : stack.length + v.nesting ≤ maxNesting) {c : Char}
    (hc : c = ',' ∨ c = ']' ∨ c = '\x7d') (rest : List Char) :
    run .rules st (cs ++ c :: rest) = run .rules (.after v.exact stack) (c :: rest) := by
  obtain ⟨before, inside, after, hbefore, hinside, hafter, rfl⟩ := hcs
  rw [List.append_assoc, List.append_assoc, run_append_blanks hbefore,
    hv inside hinside st stack hst hdepth _
      (endsNumber_append hafter (endsNumber_cons hc rest)),
    run_append_blanks hafter]

/-- **The items of a list are read one after the other.** -/
theorem run_of_writesItems {items : List Value} (hitems : ∀ v ∈ items, ReadsBack v) {cs : List Char}
    (hcs : WritesItems items cs) (hne : items ≠ []) (read : List Value)
    (hst : BeginsValue st (.items read :: stack))
    (hdepth : stack.length + 1 + Value.nestings items ≤ maxNesting) (rest : List Char) :
    run .rules st (cs ++ ']' :: rest) =
      run .rules (.after (.list (read.reverse ++ Value.exactItems items)) stack) rest := by
  induction items generalizing cs read st with
  | nil => exact absurd rfl hne
  | cons v r ih =>
      rw [List.forall_mem_cons] at hitems
      rw [Value.nestings] at hdepth
      have hv : (Frame.items read :: stack).length + v.nesting ≤ maxNesting := by
        rw [List.length_cons]
        omega
      cases r with
      | nil =>
          rw [run_of_padded hitems.1 hcs hst hv (Or.inr (Or.inl rfl)),
            run_of_takeToken? (t := .closeList) rfl rfl, List.reverse_cons]
          rfl
      | cons w r =>
          obtain ⟨first, others, hfirst, hothers, rfl⟩ := hcs
          rw [List.append_assoc, List.cons_append, run_of_padded hitems.1 hfirst hst hv (Or.inl rfl),
            run_of_takeToken? (t := .comma) rfl rfl,
            ih hitems.2 hothers (List.cons_ne_nil w r) _ (.value _) (by omega), List.reverse_cons,
            List.append_assoc]
          rfl

/-- Whether a name may begin inside an object, behind members that were read. -/
inductive BeginsName : State → List (String × Value) → List Frame → Prop
  | firstName (stack : List Frame) : BeginsName (.firstName stack) [] stack
  | name (read : List (String × Value)) (stack : List Frame) :
      BeginsName (.name read stack) read stack

theorem run_of_name {read : List (String × Value)} (hst : BeginsName st read stack) {name : String}
    {cs : List Char} (hcs : Padded (WritesText name) cs) (rest : List Char) :
    run .rules st (cs ++ ':' :: rest) = run .rules (.value (.members read name :: stack)) rest := by
  obtain ⟨before, inside, after, hbefore, hinside, hafter, rfl⟩ := hcs
  have hstep : step .rules st (.text name) = .ok (.colon read name stack) := by
    cases hst <;> rfl
  rw [List.append_assoc, List.append_assoc, run_append_blanks hbefore,
    run_of_takeToken? (takeToken?_text hinside _) hstep, run_append_blanks hafter,
    run_of_takeToken? (t := .colon) rfl rfl]

/-- **The members of an object are read one after the other,** and each is put behind the others, since
its name is new. -/
theorem run_of_writesMembers {fields : List (String × Value)}
    (hfields : ∀ f ∈ fields, ReadsBack f.2) {cs : List Char} (hcs : WritesMembers fields cs)
    (hne : fields ≠ []) (read : List (String × Value))
    (hnames : (read.map Prod.fst ++ fields.map Prod.fst).Nodup) (hst : BeginsName st read stack)
    (hdepth : stack.length + 1 + Value.fieldNestings fields ≤ maxNesting) (rest : List Char) :
    run .rules st (cs ++ '\x7d' :: rest) =
      run .rules (.after (.object (read ++ Value.exactFields fields)) stack) rest := by
  induction fields generalizing cs read st with
  | nil => exact absurd rfl hne
  | cons f r ih =>
      obtain ⟨name, v⟩ := f
      rw [List.forall_mem_cons] at hfields
      rw [Value.fieldNestings] at hdepth
      have hv : (Frame.members read name :: stack).length + v.nesting ≤ maxNesting := by
        rw [List.length_cons]
        omega
      have hnew : name ∉ read.map Prod.fst := by
        intro hmem
        exact (List.nodup_append.mp hnames).2.2 name hmem name List.mem_cons_self rfl
      have hput := Value.putField_of_not_mem v.exact hnew
      cases r with
      | nil =>
          obtain ⟨first, value, hfirst, hvalue, rfl⟩ := hcs
          rw [List.append_assoc, List.cons_append, run_of_name hst hfirst,
            run_of_padded hfields.1 hvalue (.value _) hv (Or.inr (Or.inr rfl)),
            run_of_takeToken? (t := .closeObject) rfl rfl, hput]
          rfl
      | cons g r =>
          obtain ⟨first, value, others, hfirst, hvalue, hothers, rfl⟩ := hcs
          rw [List.append_assoc, List.cons_append, List.append_assoc, List.cons_append,
            run_of_name hst hfirst, run_of_padded hfields.1 hvalue (.value _) hv (Or.inl rfl),
            run_of_takeToken? (t := .comma) rfl rfl, hput,
            ih hfields.2 hothers (List.cons_ne_nil g r) _ ?_ (.name _ _) (by omega), List.append_assoc]
          · rfl
          · rwa [List.map_append, List.append_assoc]

theorem readsBack_list {items : List Value} (h : ∀ v ∈ items, ReadsBack v) :
    ReadsBack (.list items) := by
  rintro _ ⟨inside, hinside, rfl⟩ st stack hst hdepth rest -
  rw [Value.nesting] at hdepth
  have hopen : step .rules st .openList = .ok (.firstItem stack) :=
    (step_of_beginsValue hst (t := .openList) nofun).trans (opened_of_lt (by omega))
  rw [List.cons_append, List.append_assoc, List.singleton_append,
    run_of_takeToken? (t := .openList) rfl hopen]
  cases items with
  | nil =>
      rw [run_append_blanks hinside, run_of_takeToken? (t := .closeList) rfl rfl]
      rfl
  | cons v r =>
      rw [run_of_writesItems h hinside (List.cons_ne_nil v r) [] (.firstItem stack) (by omega)]
      rfl

theorem readsBack_object {fields : List (String × Value)} (hnames : (fields.map Prod.fst).Nodup)
    (h : ∀ f ∈ fields, ReadsBack f.2) : ReadsBack (.object fields) := by
  rintro _ ⟨inside, hinside, rfl⟩ st stack hst hdepth rest -
  rw [Value.nesting] at hdepth
  have hopen : step .rules st .openObject = .ok (.firstName stack) :=
    (step_of_beginsValue hst (t := .openObject) nofun).trans (opened_of_lt (by omega))
  rw [List.cons_append, List.append_assoc, List.singleton_append,
    run_of_takeToken? (t := .openObject) rfl hopen]
  cases fields with
  | nil =>
      rw [run_append_blanks hinside, run_of_takeToken? (t := .closeObject) rfl rfl]
      rfl
  | cons f r =>
      rw [run_of_writesMembers h hinside (List.cons_ne_nil f r) [] hnames (.firstName stack) (by omega)]
      rfl

/-- **Reading a text of a value takes the reader behind the value,** wherever a value may begin. -/
theorem readsBack {v : Value} (h : v.IsWritten) : ReadsBack v := by
  induction h with
  | null => exact readsBack_null
  | bool b => exact readsBack_bool b
  | int h => exact readsBack_int h
  | float x => exact readsBack_float x
  | text s => exact readsBack_text s
  | list _ ih => exact readsBack_list ih
  | object hnames _ ih => exact readsBack_object hnames ih

/-- **A value is read back from any of its texts,** with its finite binary64 numbers as decimals. -/
theorem read_of_padded {v : Value} (h : v.IsWritten) (hdepth : v.nesting ≤ maxNesting) {cs : List Char}
    (hcs : Padded (Writes v) cs) : read .rules cs = .ok v.exact := by
  obtain ⟨before, inside, after, hbefore, hinside, hafter, rfl⟩ := hcs
  have hrest : EndsNumber (after ++ []) := endsNumber_append hafter nofun
  rw [List.append_nil] at hrest
  have hread := readsBack h inside hinside _ [] (.value []) (by simpa using hdepth) after hrest
  rw [read, run_append_blanks hbefore, hread, run_of_blanks hafter]
  rfl

end Json
end Verdict
