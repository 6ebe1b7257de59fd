/-
# The UTF-8 bytes of a text

Decoding the UTF-8 bytes of a text gives the text back (`Text.Utf8.decode_encode`).  Where the encoding
of bytes has to be told from the bytes themselves, those of a text are told to be UTF-8, unless

* the text begins with U+FEFF, which is taken for a byte order mark, or
* its first or second character is U+0000, whose zero makes the bytes look like those of UTF-16 or UTF-32.
-/

import Verdict.Json.Bytes
import Verdict.Text.Blank

namespace Verdict

namespace Text

theorem charOf?_toNat (c : Char) : charOf? c.toNat = some c := by
  have hvalid : c.toNat.isValidChar := c.valid
  rw [charOf?, if_pos hvalid, Char.ofNat_toNat]

/-- No character is a surrogate. -/
theorem not_isSurrogate_toNat (c : Char) : isSurrogate c.toNat = false := by
  have hvalid : c.toNat.isValidChar := c.valid
  simp only [Nat.isValidChar] at hvalid
  simp only [isSurrogate, isHighSurrogate, isLowSurrogate, Bool.or_eq_false_iff, Bool.and_eq_false_iff,
    decide_eq_false_iff_not]
  omega

theorem charOrSurrogate?_toNat (c : Char) : charOrSurrogate? c.toNat = some c := by
  rw [charOrSurrogate?, not_isSurrogate_toNat, if_neg Bool.false_ne_true, charOf?_toNat]

namespace Utf8

section
variable {char? : Nat → Option Char}

theorem toNat_toUInt8 {n : Nat} (h : n < 256) : n.toUInt8.toNat = n := UInt8.toNat_ofNat_of_lt' h

theorem toNat_lt (c : Char) : c.toNat < 0x110000 := by
  have hvalid := c.valid
  rw [UInt32.isValidChar, Nat.isValidChar] at hvalid
  change c.val.toNat < _
  omega

theorem isTail_toUInt8 {n : Nat} (h : n < 64) : isTail (0x80 + n).toUInt8 = true := by
  rw [isTail, toNat_toUInt8 (by omega)]
  simp only [Bool.and_eq_true, decide_eq_true_eq]
  omega

theorem tailBits_toUInt8 {n : Nat} (h : n < 64) : tailBits (0x80 + n).toUInt8 = n := by
  have hbyte : (0x80 + n).toUInt8.toNat = 0x80 + n := toNat_toUInt8 (by omega)
  unfold tailBits
  omega

theorem first?_of_lt {b : UInt8} (h : b.toNat < 0x80) (r : List UInt8) :
    first? char? (b :: r) = some (Char.ofNat b.toNat, 1) := by
  unfold first?
  exact if_pos h

/-- **The first character** of what encodes one is that character, with the number of its bytes. -/
theorem first?_encodeChar (h : ∀ c : Char, char? c.toNat = some c) (c : Char) (r : List UInt8) :
    first? char? (encodeChar c ++ r) = some (c, (encodeChar c).length) := by
  have hlt := toNat_lt c
  have htail {n : Nat} (h : n < 64) := And.intro (isTail_toUInt8 h) (tailBits_toUInt8 h)
  have hchar {n : Nat} (hn : n = c.toNat) : char? n = some c := hn ▸ h c
  unfold encodeChar
  dsimp only
  split
  · next h =>
    have hbyte : c.toNat.toUInt8.toNat = c.toNat := toNat_toUInt8 (by omega)
    rw [List.cons_append, first?_of_lt (by omega), hbyte, Char.ofNat_toNat]
    rfl
  · split
    · next h =>
      obtain ⟨h₁, h₁'⟩ := htail (n := c.toNat % 64) (by omega)
      rw [List.cons_append, List.cons_append, first?, toNat_toUInt8 (by omega), if_neg (by omega),
        if_neg (by omega), if_pos (by omega)]
      dsimp only
      rw [h₁, h₁', hchar (by omega), if_pos (by simp; omega)]
      rfl
    · split
      · next h =>
        obtain ⟨h₁, h₁'⟩ := htail (n := c.toNat % 64) (by omega)
        obtain ⟨h₂, h₂'⟩ := htail (n := c.toNat / 64 % 64) (by omega)
        rw [List.cons_append, List.cons_append, List.cons_append, first?, toNat_toUInt8 (by omega),
          if_neg (by omega), if_neg (by omega), if_neg (by omega), if_pos (by omega)]
        dsimp only
        rw [h₁, h₁', h₂, h₂', hchar (by omega), if_pos (by simp; omega)]
        rfl
      · next h =>
        obtain ⟨h₁, h₁'⟩ := htail (n := c.toNat % 64) (by omega)
        obtain ⟨h₂, h₂'⟩ := htail (n := c.toNat / 64 % 64) (by omega)
        obtain ⟨h₃, h₃'⟩ := htail (n := c.toNat / 4096 % 64) (by omega)
        rw [List.cons_append, List.cons_append, List.cons_append, List.cons_append, first?,
          toNat_toUInt8 (by omega), if_neg (by omega), if_neg (by omega), if_neg (by omega),
          if_neg (by omega), if_pos (by omega)]
        dsimp only
        rw [h₁, h₁', h₂, h₂', h₃, h₃', hchar (by omega), if_pos (by simp; omega)]
        rfl

theorem encodeChar_ne_nil (c : Char) : encodeChar c ≠ [] := by
  unfold encodeChar
  dsimp only
  split
  · exact List.cons_ne_nil _ _
  · split
    · exact List.cons_ne_nil _ _
    · split <;> exact List.cons_ne_nil _ _

theorem encode_cons (c : Char) (cs : List Char) : encode (c :: cs) = encodeChar c ++ encode cs :=
  List.flatMap_cons

/-- The characters of a text come back one by one, with whatever follows. -/
theorem decodeFrom_append (h : ∀ c : Char, char? c.toNat = some c) (c : Char) (fuel : Nat)
    (bs : List UInt8) :
    decodeFrom char? (fuel + 1) (encodeChar c ++ bs) = (decodeFrom char? fuel bs).map (c :: ·) := by
  have hfirst := first?_encodeChar h c bs
  cases hbs : encodeChar c with
  | nil => exact absurd hbs (encodeChar_ne_nil c)
  | cons b r =>
      rw [hbs] at hfirst
      rw [List.cons_append] at hfirst ⊢
      rw [decodeFrom, hfirst]
      dsimp only
      rw [← List.cons_append, List.drop_left]
      exact nofun

/-- **Decoding the bytes of a text** gives the text back, whatever else there are bytes of. -/
theorem decodeBy_encode (hchar : ∀ c : Char, char? c.toNat = some c) (cs : List Char) :
    decodeBy char? (encode cs) = some cs := by
  have hfuel : ∀ fuel, (encode cs).length ≤ fuel → decodeFrom char? fuel (encode cs) = some cs := by
    induction cs with
    | nil =>
        intro fuel _
        cases fuel <;> rfl
    | cons c r ih =>
        intro fuel h
        have hpos := List.length_pos_iff.mpr (encodeChar_ne_nil c)
        rw [encode_cons, List.length_append] at h
        obtain ⟨fuel, rfl⟩ := Nat.exists_eq_succ_of_ne_zero (show fuel ≠ 0 by omega)
        rw [encode_cons, decodeFrom_append hchar, ih fuel (by omega)]
        rfl
  exact hfuel _ (Nat.le_refl _)

end

theorem decode_encode (cs : List Char) : decode (encode cs) = some cs := decodeBy_encode charOf?_toNat cs

/-- A text begins with the character that its bytes begin with. -/
theorem exists_cons_of_encode {cs : List Char} {c : Char} {bs : List UInt8}
    (h : encode cs = encodeChar c ++ bs) : ∃ r, cs = c :: r := by
  cases cs with
  | nil =>
      have hnil := List.append_eq_nil_iff.mp h.symm
      exact absurd hnil.1 (encodeChar_ne_nil c)
  | cons d r =>
      have hfirst := first?_encodeChar charOf?_toNat d (encode r)
      rw [← encode_cons, h, first?_encodeChar charOf?_toNat] at hfirst
      exact ⟨r, congrArg (· :: r) (Prod.mk.inj (Option.some.inj hfirst)).1.symm⟩

/-- A zero byte is the character U+0000, and belongs to no other. -/
theorem eq_nul_of_zero_mem {c : Char} (h : 0 ∈ encodeChar c) : c = '\x00' := by
  have hzero {n : Nat} (h : n < 256) (hn : 0 = n.toUInt8) : n = 0 := by
    have hnat := congrArg UInt8.toNat hn
    rw [toNat_toUInt8 h] at hnat
    exact hnat.symm
  have hlt := toNat_lt c
  have hnat : c.toNat = 0 := by
    unfold encodeChar at h
    dsimp only at h
    split at h
    · exact hzero (by omega) (List.mem_singleton.mp h)
    · refine absurd h ?_
      split
      · simp only [List.mem_cons, List.not_mem_nil, or_false]
        rintro (h | h) <;> have := hzero (by omega) h <;> omega
      · split
        all_goals
          simp only [List.mem_cons, List.not_mem_nil, or_false]
        · rintro (h | h | h) <;> have := hzero (by omega) h <;> omega
        · rintro (h | h | h | h) <;> have := hzero (by omega) h <;> omega
  exact Char.ext (UInt32.toNat_inj.mp hnat)

/-- A character of blank bytes is blank. -/
theorem isBlank_of_encodeChar {c : Char} (h : ∀ b ∈ encodeChar c, isBlankByte b = true) :
    isBlank c = true := by
  have hfirst := first?_encodeChar charOf?_toNat c []
  rw [List.append_nil] at hfirst
  cases hbytes : encodeChar c with
  | nil => exact absurd hbytes (encodeChar_ne_nil c)
  | cons b r =>
      have hb : b.toNat = 32 ∨ 9 ≤ b.toNat ∧ b.toNat ≤ 13 := by
        have hblank := h b (hbytes ▸ List.mem_cons_self)
        simp only [isBlankByte, Bool.or_eq_true, Bool.and_eq_true, beq_iff_eq, decide_eq_true_eq,
          UInt8.le_iff_toNat_le] at hblank
        exact hblank.imp (congrArg UInt8.toNat) id
      rw [hbytes, first?_of_lt (by omega)] at hfirst
      obtain ⟨rfl, -⟩ := Prod.mk.inj (Option.some.inj hfirst)
      generalize b.toNat = n at hb
      obtain rfl | rfl | rfl | rfl | rfl | rfl :
          n = 32 ∨ n = 9 ∨ n = 10 ∨ n = 11 ∨ n = 12 ∨ n = 13 := by omega
      all_goals rfl

end Utf8
end Text

namespace Json

open Text Utf8

/-- **The encoding of the bytes of a text** shows in their zeros alone, unless the text begins with the
mark U+FEFF. -/
theorem encodingOf_encode {cs : List Char} (h : cs.head? ≠ some '\uFEFF') :
    encodingOf (encode cs) = (zeroPattern (encode cs), encode cs) := by
  have hdecode := decode_encode cs
  unfold encodingOf
  split
  case h_5 r heq =>
    obtain ⟨r, rfl⟩ := exists_cons_of_encode (c := '\uFEFF') heq
    exact absurd rfl h
  case h_6 => rfl
  all_goals
    next heq =>
    rw [heq] at hdecode
    cases hdecode

/-- Zeros that show another encoding than UTF-8 are among the first two characters. -/
theorem nul_mem_of_zeroPattern {cs : List Char} (h : zeroPattern (encode cs) ≠ .utf8) :
    '\x00' ∈ cs.take 2 := by
  obtain ⟨a, b, r, hbytes, hzero⟩ : ∃ a b r, encode cs = a :: b :: r ∧ (a = 0 ∨ b = 0) := by
    unfold zeroPattern at h
    split at h
    · next heq => exact ⟨_, _, _, heq, Or.inl rfl⟩
    · next heq => exact ⟨_, _, _, heq, Or.inr rfl⟩
    · next a b c d r heq =>
      refine ⟨_, _, _, heq, Decidable.byContradiction fun hne => ?_⟩
      rw [not_or] at hne
      simp [hne.1, hne.2] at h
    · exact absurd rfl h
  rcases hzero with rfl | rfl
  · obtain ⟨r, rfl⟩ := exists_cons_of_encode (c := '\x00') hbytes
    exact List.mem_cons_self
  · cases cs with
    | nil => cases hbytes
    | cons c cs =>
        rw [encode_cons] at hbytes
        -- the second byte ends the first character, or begins the second one
        match hc : encodeChar c with
        | [] => exact absurd hc (encodeChar_ne_nil c)
        | [x] =>
            rw [hc] at hbytes
            obtain ⟨r, rfl⟩ := exists_cons_of_encode (c := '\x00') (List.cons.inj hbytes).2
            exact List.mem_cons_of_mem _ List.mem_cons_self
        | x :: y :: s =>
            rw [hc] at hbytes
            obtain rfl := (List.cons.inj (List.cons.inj hbytes).2).1
            obtain rfl := eq_nul_of_zero_mem (hc ▸ List.mem_cons_of_mem x List.mem_cons_self)
            exact List.mem_cons_self

end Json

end Verdict
