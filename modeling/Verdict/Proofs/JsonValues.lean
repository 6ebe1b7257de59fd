/-
# What a JSON text can hold

A reader makes values out of constants, texts and numbers, and lists and objects out of these.  A
property that all the former have and the latter inherit (`ClosedFor`) is one of every value that
is read: it holds of the frames that are still open, and each token keeps it so (`ClosedFor.of_read`).
No byte string is read, for one (`bytesFree_of_read`).
-/

import Verdict.Json.Reader
import Verdict.Proofs.WellFormed

namespace Verdict

theorem Value.mem_putField {name : String} {v : Value} {fields : List (String × Value)}
    {f : String × Value} (h : f ∈ putField name v fields) : f = (name, v) ∨ f ∈ fields := by
  induction fields with
  | nil => exact Or.inl (List.mem_singleton.mp h)
  | cons g r ih =>
      unfold putField at h
      split at h
      · next hk =>
        rw [hk, List.mem_cons] at h
        exact h.imp_right (List.mem_cons_of_mem _)
      · rcases List.mem_cons.mp h with rfl | h
        · exact Or.inr (List.mem_cons_self ..)
        · exact (ih h).imp_right (List.mem_cons_of_mem _)

namespace Json

open Text

/-- A property that whatever a dialect reads has, if it is closed under lists and objects. -/
structure ClosedFor (d : Dialect) (P : Value → Prop) : Prop where
  constant : ∀ p ∈ constants, P p.2
  text : ∀ s, P (.text s)
  number : ∀ n v, (∀ k ∈ n.whole, k < 10) → numberValue d n = .ok v → P v
  list : ∀ items, (∀ v ∈ items, P v) → P (.list items)
  object : ∀ fields, (∀ f ∈ fields, P f.2) → P (.object fields)

/-- What is known of a token that was read: a constant is one of those there are, and the whole
part of a number is made of digits. -/
def Token.IsRead : Token → Prop
  | .constant v => ∃ p ∈ constants, p.2 = v
  | .number n => ∀ k ∈ n.whole, k < 10
  | _ => True

theorem lt_of_mem_digitsOf {cs : List Char} {k : Nat} (h : k ∈ digitsOf cs) : k < 10 := by
  obtain ⟨c, hc, rfl⟩ := List.mem_map.mp h
  have hdigit := List.all_eq_true.mp List.all_takeWhile c hc
  simp only [isAsciiDigit, Bool.and_eq_true, decide_eq_true_eq] at hdigit
  omega

theorem lt_of_takeWhole? {cs r : List Char} {ds : List Nat} (h : takeWhole? cs = some (ds, r)) :
    ∀ k ∈ ds, k < 10 := by
  unfold takeWhole? at h
  split at h
  · obtain ⟨rfl, -⟩ := Prod.mk.inj (Option.some.inj h)
    simp
  · obtain ⟨-, h⟩ := Option.ite_none_right_eq_some.mp h
    obtain ⟨rfl, -⟩ := Prod.mk.inj (Option.some.inj h)
    exact fun _ => lt_of_mem_digitsOf
  · cases h

theorem isRead_of_takeUnsigned? {negative : Bool} {cs r : List Char} {n : Numeral}
    (h : takeUnsigned? negative cs = some (n, r)) : (Token.number n).IsRead := by
  obtain ⟨⟨ds, r'⟩, hw, h⟩ := Option.map_eq_some_iff.mp h
  obtain ⟨rfl, -⟩ := Prod.mk.inj h
  exact lt_of_takeWhole? hw

theorem isRead_of_takeNumber? {cs r : List Char} {n : Numeral} (h : takeNumber? cs = some (n, r)) :
    (Token.number n).IsRead := by
  unfold takeNumber? at h
  split at h <;> exact isRead_of_takeUnsigned? h

theorem isRead_of_takeConstant? {cs r : List Char} {v : Value}
    (h : takeConstant? cs = some (v, r)) : (Token.constant v).IsRead := by
  obtain ⟨p, hp, h⟩ := Option.map_eq_some_iff.mp h
  exact ⟨p, List.mem_of_find?_eq_some hp, (Prod.mk.inj h).1⟩

theorem isRead_of_takeToken? {cs r : List Char} {t : Token} (h : takeToken? cs = some (t, r)) :
    t.IsRead := by
  unfold takeToken? at h
  split at h
  case h_7 =>
    obtain ⟨p, -, h⟩ := Option.map_eq_some_iff.mp h
    obtain ⟨rfl, -⟩ := Prod.mk.inj h
    trivial
  case h_8 =>
    split at h
    · next hc =>
      obtain ⟨rfl, -⟩ := Prod.mk.inj (Option.some.inj h)
      exact isRead_of_takeConstant? hc
    · obtain ⟨p, hn, h⟩ := Option.map_eq_some_iff.mp h
      obtain ⟨rfl, -⟩ := Prod.mk.inj h
      exact isRead_of_takeNumber? hn
  all_goals
    obtain ⟨rfl, -⟩ := Prod.mk.inj (Option.some.inj h)
    trivial

section
variable {d : Dialect} {P : Value → Prop}

/-- Whether all parts of an open list or object have a property. -/
def Frame.Holds (P : Value → Prop) : Frame → Prop
  | .items read => ∀ v ∈ read, P v
  | .members read _ => ∀ f ∈ read, P f.2

/-- Whether everything that a state keeps has a property. -/
def State.Holds (P : Value → Prop) : State → Prop
  | .value stack | .firstItem stack | .firstName stack => ∀ f ∈ stack, f.Holds P
  | .name read stack | .colon read _ stack => (∀ f ∈ read, P f.2) ∧ ∀ f ∈ stack, f.Holds P
  | .after v stack => P v ∧ ∀ f ∈ stack, f.Holds P

theorem opened_eq_ok {stack : List Frame} {st next : State} (h : opened d stack st = .ok next) :
    next = st := by
  unfold opened at h
  split at h
  · exact (Except.ok.inj h).symm
  · cases h

namespace ClosedFor

variable (hP : ClosedFor d P)
include hP

theorem of_beginValue {stack : List Frame} {t : Token} {next : State}
    (hs : ∀ f ∈ stack, f.Holds P) (ht : t.IsRead) (h : beginValue d stack t = .ok next) :
    next.Holds P := by
  cases t with
  | openList => exact opened_eq_ok h ▸ hs
  | openObject => exact opened_eq_ok h ▸ hs
  | text s =>
      obtain rfl := Except.ok.inj h
      exact ⟨hP.text s, hs⟩
  | number n =>
      rw [beginValue] at h
      cases hn : numberValue d n with
      | error e => rw [hn] at h; cases h
      | ok v =>
          rw [hn] at h
          obtain rfl := Except.ok.inj h
          exact ⟨hP.number n v ht hn, hs⟩
  | constant v =>
      obtain ⟨p, hp, rfl⟩ := ht
      obtain rfl := Except.ok.inj h
      exact ⟨hP.constant p hp, hs⟩
  | _ => cases h

/-- A complete value joins the innermost list or object. -/
theorem of_afterValue {v : Value} {stack : List Frame} {t : Token} {next : State} (hv : P v)
    (hs : ∀ f ∈ stack, f.Holds P) (h : afterValue v stack t = .ok next) : next.Holds P := by
  cases stack with
  | nil => cases h
  | cons f stack =>
      rw [List.forall_mem_cons] at hs
      cases f with
      | items read =>
          have hitems : ∀ w ∈ v :: read, P w := List.forall_mem_cons.mpr ⟨hv, hs.1⟩
          cases t with
          | comma =>
              obtain rfl := Except.ok.inj h
              exact List.forall_mem_cons.mpr ⟨hitems, hs.2⟩
          | closeList =>
              obtain rfl := Except.ok.inj h
              exact ⟨hP.list _ fun w hw => hitems w (List.mem_reverse.mp hw), hs.2⟩
          | _ => cases h
      | members read name =>
          have hmembers : ∀ f ∈ Value.putField name v read, P f.2 := by
            intro f hf
            rcases Value.mem_putField hf with rfl | hf
            · exact hv
            · exact hs.1 f hf
          cases t with
          | comma =>
              obtain rfl := Except.ok.inj h
              exact ⟨hmembers, hs.2⟩
          | closeObject =>
              obtain rfl := Except.ok.inj h
              exact ⟨hP.object _ hmembers, hs.2⟩
          | _ => cases h

/-- **A step** keeps the property. -/
theorem of_step {st next : State} {t : Token} (hs : st.Holds P) (ht : t.IsRead)
    (h : step d st t = .ok next) : next.Holds P := by
  cases st with
  | value stack => exact hP.of_beginValue hs ht h
  | firstItem stack =>
      have hframe : ∀ f ∈ Frame.items [] :: stack, f.Holds P :=
        List.forall_mem_cons.mpr ⟨List.forall_mem_nil P, hs⟩
      cases t with
      | closeList =>
          obtain rfl := Except.ok.inj h
          exact ⟨hP.list [] (List.forall_mem_nil P), hs⟩
      | _ => exact hP.of_beginValue hframe ht h
  | firstName stack =>
      cases t with
      | closeObject =>
          obtain rfl := Except.ok.inj h
          exact ⟨hP.object [] (List.forall_mem_nil _), hs⟩
      | text s =>
          obtain rfl := Except.ok.inj h
          exact ⟨List.forall_mem_nil _, hs⟩
      | _ => cases h
  | name read stack =>
      cases t with
      | text s =>
          obtain rfl := Except.ok.inj h
          exact hs
      | _ => cases h
  | colon read s stack =>
      cases t with
      | colon =>
          obtain rfl := Except.ok.inj h
          exact List.forall_mem_cons.mpr hs
      | _ => cases h
  | after v stack => exact hP.of_afterValue hs.1 hs.2 h

/-- **A run** ends in a value with the property. -/
theorem of_run {st : State} {cs : List Char} {v : Value} (hs : st.Holds P)
    (h : run d st cs = .ok v) : P v := by
  fun_induction run d st cs with
  | case1 st cs hb =>
      unfold finish at h
      split at h
      · obtain rfl := Except.ok.inj h
        exact hs.1
      · cases h
  | case2 st cs hb ht => cases h
  | case3 st cs hb t r ht next hn ih => exact ih (hP.of_step hs (isRead_of_takeToken? ht) hn) h
  | case4 st cs hb t r ht e he => cases h

/-- The value of a text has the property. -/
theorem of_read {cs : List Char} {v : Value} (h : read d cs = .ok v) : P v := by
  have hstart : State.Holds P (.value []) := List.forall_mem_nil _
  exact hP.of_run hstart h

end ClosedFor

theorem closedFor_bytesFree : ClosedFor d Value.BytesFree where
  constant := by simp [constants]
  text := .text
  number := by
    intro n v _ h
    unfold numberValue at h
    repeat' split at h
    all_goals cases h
    all_goals simp
  list _ := .list
  object _ := .object

/-- The value of a text holds no byte string. -/
theorem bytesFree_of_read {cs : List Char} {v : Value} (h : read d cs = .ok v) : v.BytesFree :=
  closedFor_bytesFree.of_read h

end
end Json
end Verdict
