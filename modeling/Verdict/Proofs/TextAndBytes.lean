/-
# Rules as a text and as its bytes

The UTF-8 bytes of a text stand for the document that the text stands for, and so does a JSON file that
holds them (`document_of_bytes`).  Text and bytes part only where the encoding of the bytes is told from
their first ones, and the text has no document of its own:

| text | document of the text | document of its bytes |
| --- | --- | --- |
| with a zero where UTF-16 or UTF-32 has one | the empty one | that of the text in the other encoding |
| behind the mark U+FEFF | the empty one | that of the text behind the mark |

In the first row U+0000 is the first or the second character, and no JSON text has it there.  White space
is no third row: only ASCII white space is told from other bytes, but no other blank begins a token.
-/

import Verdict.Proofs.EncodedText
import Verdict.Proofs.JsonFaults
import Verdict.Proofs.LineEnds

namespace Verdict

namespace Json

/-- Whether a token may begin with a character. -/
def beginsToken (c : Char) : Bool :=
  Text.isAsciiDigit c ||
    ['[', ']', '\x7b', '\x7d', ',', ':', '\x22', '-', 'n', 't', 'f', 'N', 'I'].contains c

/-- A whole part begins with a digit, and is this one or goes on with others. -/
theorem rest_of_takeWhole? {c : Char} {r s : List Char} {whole : List Nat}
    (h : takeWhole? (c :: r) = some (whole, s)) :
    Text.isAsciiDigit c = true ∧ (s = r ∨ s = afterDigits r) := by
  unfold takeWhole? at h
  split at h
  · next heq =>
    obtain ⟨rfl, rfl⟩ := List.cons.inj heq
    exact ⟨rfl, Or.inl (Prod.mk.inj (Option.some.inj h)).2.symm⟩
  · next heq =>
    obtain ⟨rfl, rfl⟩ := List.cons.inj heq
    split at h
    · next hdigit => exact ⟨hdigit, Or.inr (Prod.mk.inj (Option.some.inj h)).2.symm⟩
    · cases h
  · cases h

theorem isAsciiDigit_of_takeUnsigned? {negative : Bool} {c : Char} {r : List Char}
    {p : Numeral × List Char} (h : takeUnsigned? negative (c :: r) = some p) :
    Text.isAsciiDigit c = true := by
  obtain ⟨_, hwhole, -⟩ := Option.map_eq_some_iff.mp h
  exact (rest_of_takeWhole? hwhole).1

theorem prefix_of_takeConstant? {cs r : List Char} {v : Value}
    (h : takeConstant? cs = some (v, r)) : ∃ p ∈ constants, p.1 <+: cs := by
  obtain ⟨p, hp, -⟩ := Option.map_eq_some_iff.mp h
  have hprefix := List.find?_some hp
  exact ⟨p, List.mem_of_find?_eq_some hp, List.isPrefixOf_iff_prefix.mp hprefix⟩

theorem beginsToken_of_takeToken? {c : Char} {r : List Char} {p : Token × List Char}
    (h : takeToken? (c :: r) = some p) : beginsToken c = true := by
  unfold takeToken? at h
  split at h
  case h_8 =>
    split at h
    · next hconstant =>
      obtain ⟨q, hq, hprefix⟩ := prefix_of_takeConstant? hconstant
      simp only [constants, List.mem_cons, List.not_mem_nil, or_false] at hq
      rcases hq with rfl | rfl | rfl | rfl | rfl | rfl
      all_goals
        obtain ⟨rfl, -⟩ := List.cons_prefix_cons.mp hprefix
        rfl
    · obtain ⟨q, hnumber, -⟩ := Option.map_eq_some_iff.mp h
      unfold takeNumber? at hnumber
      split at hnumber
      · next heq =>
        obtain ⟨rfl, -⟩ := List.cons.inj heq
        rfl
      · rw [beginsToken, isAsciiDigit_of_takeUnsigned? hnumber]
        rfl
  all_goals
    next heq =>
    obtain ⟨rfl, -⟩ := List.cons.inj heq
    rfl

theorem takeToken?_of_not_beginsToken {c : Char} {r : List Char} (h : beginsToken c = false) :
    takeToken? (c :: r) = none :=
  Option.eq_none_iff_forall_ne_some.mpr fun p hp => by
    rw [beginsToken_of_takeToken? hp] at h
    cases h

/-- A character that begins no token and is no blank is a fault. -/
theorem run_of_not_beginsToken {d : Dialect} {st : State} {c : Char} {r : List Char}
    (hblank : isBlank c = false) (hc : beginsToken c = false) :
    run d st (c :: r) = .error .malformed := by
  have hskip : skipBlanks (c :: r) = c :: r := List.dropWhile_cons_of_neg (by simp [hblank])
  rw [run_eq, hskip, if_neg (by simp), takeToken?_of_not_beginsToken hc]

/-- White space begins no token. -/
theorem not_beginsToken_of_isBlank {c : Char} (h : Text.isBlank c = true) : beginsToken c = false := by
  refine Bool.eq_false_iff.mpr fun hc => ?_
  simp only [beginsToken, Bool.or_eq_true, List.contains_eq_mem, decide_eq_true_eq, List.mem_cons,
    List.not_mem_nil, or_false] at hc
  rcases hc with hdigit | rfl | rfl | rfl | rfl | rfl | rfl | rfl | rfl | rfl | rfl | rfl | rfl | rfl
  case inl =>
    simp only [Text.isBlank, Text.isSpace, Text.isAsciiDigit, Bool.or_eq_true, Bool.and_eq_true,
      decide_eq_true_eq, beq_iff_eq] at h hdigit
    omega
  all_goals cases h

/-- **A text of white space has no value.** -/
theorem read_of_allBlank {d : Dialect} {cs : List Char} (h : ∀ c ∈ cs, Text.isBlank c = true) :
    read d cs = .error .malformed := by
  cases hskip : skipBlanks cs with
  | nil =>
      rw [read, run_eq, hskip]
      rfl
  | cons c r =>
      have hsuffix : c :: r <:+ cs := hskip ▸ List.dropWhile_suffix isBlank
      have hmem : c ∈ cs := hsuffix.subset List.mem_cons_self
      rw [read, run_eq, hskip, takeToken?_of_not_beginsToken (not_beginsToken_of_isBlank (h c hmem))]
      rfl

theorem takeUnsigned?_before_nul {negative : Bool} {c : Char} {r s : List Char} {n : Numeral}
    (h : takeUnsigned? negative (c :: '\x00' :: r) = some (n, s)) :
    s = '\x00' :: r ∧ n.isInteger = true := by
  obtain ⟨⟨whole, r'⟩, hwhole, hn⟩ := Option.map_eq_some_iff.mp h
  have hr : r' = '\x00' :: r := (rest_of_takeWhole? hwhole).2.elim id id
  subst hr
  obtain ⟨rfl, rfl⟩ := Prod.mk.inj hn
  exact ⟨rfl, rfl⟩

/-- The token before U+0000 is one character, and no number that is out of range. -/
theorem takeToken?_before_nul {c : Char} {r s : List Char} {t : Token}
    (h : takeToken? (c :: '\x00' :: r) = some (t, s)) :
    s = '\x00' :: r ∧ ∀ n, t = .number n → ¬ n.IsOutOfRange := by
  unfold takeToken? at h
  split at h
  -- no text between quotes goes on with a control character
  case h_7 heq =>
    obtain ⟨rfl, rfl⟩ := List.cons.inj heq
    have hnone : takeText [] ('\x00' :: r) = none := by
      rw [takeText]
      · rfl
      · intro _ heq
        cases heq
    rw [hnone] at h
    cases h
  case h_8 =>
    split at h
    -- every constant has a letter where U+0000 stands
    · next hconstant =>
      obtain ⟨q, hq, hprefix⟩ := prefix_of_takeConstant? hconstant
      simp only [constants, List.mem_cons, List.not_mem_nil, or_false] at hq
      rcases hq with rfl | rfl | rfl | rfl | rfl | rfl
      all_goals
        have hsecond := (List.cons_prefix_cons.mp hprefix).2
        cases (List.cons_prefix_cons.mp hsecond).1
    · obtain ⟨⟨n, s⟩, hnumber, ⟨⟩⟩ := Option.map_eq_some_iff.mp h
      unfold takeNumber? at hnumber
      split at hnumber
      · next heq =>
        obtain ⟨rfl, rfl⟩ := List.cons.inj heq
        cases isAsciiDigit_of_takeUnsigned? hnumber
      · obtain ⟨rfl, hinteger⟩ := takeUnsigned?_before_nul hnumber
        refine ⟨rfl, fun m hm hout => ?_⟩
        obtain rfl := Token.number.inj hm
        cases hinteger.symm.trans hout.1
  all_goals
    next heq =>
    obtain ⟨rfl, rfl⟩ := List.cons.inj heq
    obtain ⟨rfl, rfl⟩ := Prod.mk.inj (Option.some.inj h)
    refine ⟨rfl, fun n hn => ?_⟩
    cases hn

/-- **A text has no value where U+0000 is its first or second character,** and it meets no number out of
range. -/
theorem read_of_nul_mem {cs : List Char} (h : '\x00' ∈ cs.take 2) :
    ∃ e, read .rules cs = .error e ∧ e ≠ .outOfRange := by
  have hnul (st : State) (r : List Char) : run .rules st ('\x00' :: r) = .error .malformed :=
    run_of_not_beginsToken rfl rfl
  obtain ⟨r, rfl⟩ | ⟨c, r, rfl⟩ : (∃ r, cs = '\x00' :: r) ∨ ∃ c r, cs = c :: '\x00' :: r := by
    match cs with
    | [] => cases h
    | [c] =>
        obtain rfl := List.mem_singleton.mp h
        exact Or.inl ⟨[], rfl⟩
    | c :: d :: r =>
        simp only [List.take_succ_cons, List.take_zero, List.mem_cons, List.not_mem_nil, or_false] at h
        rcases h with rfl | rfl
        · exact Or.inl ⟨_, rfl⟩
        · exact Or.inr ⟨c, r, rfl⟩
  · exact ⟨.malformed, hnul _ r, nofun⟩
  -- a blank is skipped, and a token of one character leads to a fault or to U+0000
  · by_cases hc : isBlank c = true
    · have hblanks : Blanks [c] := List.forall_mem_singleton.mpr hc
      exact ⟨.malformed, (run_append_blanks hblanks).trans (hnul _ r), nofun⟩
    · have hskip : skipBlanks (c :: '\x00' :: r) = c :: '\x00' :: r := List.dropWhile_cons_of_neg hc
      rw [read, run_eq, hskip, if_neg (by simp)]
      cases ht : takeToken? (c :: '\x00' :: r) with
      | none => exact ⟨.malformed, rfl, nofun⟩
      | some p =>
          obtain ⟨t, s⟩ := p
          obtain ⟨rfl, hrange⟩ := takeToken?_before_nul ht
          dsimp only
          cases hstep : step .rules (.value []) t with
          | error e =>
              refine ⟨e, rfl, fun he => ?_⟩
              obtain ⟨-, n, hn, hout⟩ := (step_rules_eq_outOfRange_iff _ _).mp (he ▸ hstep)
              exact hrange n hn hout
          | ok next => exact ⟨.malformed, hnul next r, nofun⟩

end Json

namespace Document

open Text

theorem result_ofRead_error {e : Json.Fault} (h : e ≠ .outOfRange) :
    (ofRead (.error e)).result = .ok empty := by
  cases e with
  | outOfRange => exact absurd rfl h
  | _ => rfl

/-- Blank texts are no exception. -/
theorem result_ofText (s : String) : (ofText s).result = (ofChars s.toList).result := by
  unfold ofText
  split
  · next h =>
    rw [ofChars, Json.read_of_allBlank (List.all_eq_true.mp h)]
    rfl
  · rfl

theorem ofBytes_of_not_blank {bs : List UInt8} (h : ¬ bs.all isBlankByte = true) :
    ofBytes bs = match Json.decodeBytes bs with
      | some cs => ofChars cs
      | none => unusable .undecodable :=
  if_neg h

/-- **The bytes of a text** stand for its document, where their encoding shows. -/
theorem result_ofBytes {cs : List Char} (hmark : cs.head? ≠ some '\uFEFF')
    (hzero : Json.zeroPattern (Utf8.encode cs) = .utf8) :
    (ofBytes (Utf8.encode cs)).result = (ofChars cs).result := by
  by_cases h : (Utf8.encode cs).all isBlankByte = true
  · have hblank : ∀ c ∈ cs, isBlank c = true := fun c hc =>
      Utf8.isBlank_of_encodeChar fun b hb =>
        List.all_eq_true.mp h b (List.mem_flatMap.mpr ⟨c, hc, hb⟩)
    rw [ofBytes, if_pos h, ofChars, Json.read_of_allBlank hblank]
    rfl
  · rw [ofBytes_of_not_blank h, Json.decodeBytes, Json.encodingOf_encode hmark, hzero, Encoding.decode,
      Encoding.decodeBy, Utf8.decodeBy_encode charOrSurrogate?_toNat]

/-- Bytes with a zero where another encoding has one are read in that encoding. -/
theorem result_ofBytes_of_zeroPattern {cs : List Char}
    (hzero : Json.zeroPattern (Utf8.encode cs) ≠ .utf8) :
    (ofBytes (Utf8.encode cs)).result =
      match (Json.zeroPattern (Utf8.encode cs)).decode (Utf8.encode cs) with
      | some u => (ofText (String.ofList u)).result
      | none => .ok empty := by
  have hnul := List.mem_of_mem_take (Json.nul_mem_of_zeroPattern hzero)
  have hblank : ¬ (Utf8.encode cs).all isBlankByte = true := fun h => by
    have hmem : (0 : UInt8) ∈ Utf8.encode cs :=
      List.mem_flatMap.mpr ⟨'\x00', hnul, List.mem_cons_self⟩
    cases List.all_eq_true.mp h 0 hmem
  have hmark : cs.head? ≠ some '\uFEFF' := fun h => by
    obtain ⟨r, rfl⟩ := List.head?_eq_some_iff.mp h
    refine hzero ?_
    rw [Utf8.encode_cons]
    cases Utf8.encode r <;> rfl
  rw [ofBytes_of_not_blank hblank, Json.decodeBytes, Json.encodingOf_encode hmark]
  dsimp only
  cases (Json.zeroPattern (Utf8.encode cs)).decode (Utf8.encode cs) with
  | none => rfl
  | some u =>
      have htext := result_ofText (String.ofList u)
      rw [String.toList_ofList] at htext
      exact htext.symm

/-- **A mark in front** leaves a text without a document, and is dropped from its bytes. -/
theorem result_of_marked (cs : List Char) :
    (ofText (String.ofList ('\uFEFF' :: cs))).result = .ok empty ∧
      (ofBytes (Utf8.encode ('\uFEFF' :: cs))).result = (ofChars cs).result := by
  constructor
  · have hread : Json.read .rules ('\uFEFF' :: cs) = .error .malformed :=
      Json.run_of_not_beginsToken rfl rfl
    rw [result_ofText, String.toList_ofList, ofChars, hread]
    rfl
  · have hencoding : Json.encodingOf (Utf8.encode ('\uFEFF' :: cs)) = (.utf8, Utf8.encode cs) := by
      rw [Utf8.encode_cons]
      rfl
    have hblank : ¬ (Utf8.encode ('\uFEFF' :: cs)).all isBlankByte = true := by
      rw [Utf8.encode_cons]
      exact Bool.false_ne_true
    rw [ofBytes_of_not_blank hblank, Json.decodeBytes, hencoding, Encoding.decode,
      Encoding.decodeBy, Utf8.decodeBy_encode charOrSurrogate?_toNat]

/-- The ends of the lines in a file are of no account, nor is the notice of an empty document. -/
theorem result_ofFile {name : String} (h : Path.suffix name ∉ yamlSuffixes) (cs : List Char) :
    (ofFile name (Utf8.encode cs)).result = (ofChars cs).result := by
  have htext : ofFileText name (withLineFeeds cs) = ofText (String.ofList (withLineFeeds cs)) :=
    if_neg (by simpa using h)
  have hchars : ofChars (withLineFeeds cs) = ofChars cs := by
    rw [ofChars, Json.read_withLineFeeds, ofChars]
  rw [ofFile, Utf8.decode_encode]
  dsimp only
  rw [Reported.result_andThen, htext, result_ofText, String.toList_ofList, hchars]
  cases (ofChars cs).result with
  | error e => rfl
  | ok d =>
      dsimp only [Except.bind]
      split <;> rfl

end Document

open Text

/-- **A text, its UTF-8 bytes and the file of them are the same rules.**  Bytes with a zero where UTF-16
or UTF-32 has one are those of another text: theirs is its document, and the text has none of its own. -/
theorem document_of_bytes (t : String) :
    (t.toList.head? ≠ some '\uFEFF' → Json.zeroPattern (Utf8.encode t.toList) = .utf8 →
      (Document.read (.bytes (Utf8.encode t.toList))).result = (Document.read (.text t)).result) ∧
    (Json.zeroPattern (Utf8.encode t.toList) ≠ .utf8 →
      (Document.read (.text t)).result = .ok .empty ∧
      (Document.read (.bytes (Utf8.encode t.toList))).result =
        match (Json.zeroPattern (Utf8.encode t.toList)).decode (Utf8.encode t.toList) with
        | some u => (Document.read (.text (String.ofList u))).result
        | none => .ok .empty) ∧
    ∀ (fs : Files) (p : Path) (r : Registry), fs.find? p = some (.file (Utf8.encode t.toList)) →
      Path.suffix p.name ∉ yamlSuffixes →
        (r.loadFile fs p).2.result = (Document.read (.text t)).result := by
  have htext : (Document.read (.text t)).result = (Document.ofChars t.toList).result :=
    Document.result_ofText t
  rw [htext]
  refine ⟨Document.result_ofBytes,
    fun hzero => ⟨?_, Document.result_ofBytes_of_zeroPattern hzero⟩, fun fs p r hfile hname => ?_⟩
  · obtain ⟨e, he, hrange⟩ := Json.read_of_nul_mem (Json.nul_mem_of_zeroPattern hzero)
    rw [Document.ofChars, he, Document.result_ofRead_error hrange]
  · have hdocument : fs.document p = Document.ofFile p.name (Utf8.encode t.toList) := by
      rw [Files.document, hfile]
    have hread : (r.loadFile fs p).2 = fs.document p := by
      unfold Registry.loadFile
      dsimp only
      split <;> rfl
    rw [hread, hdocument, Document.result_ofFile hname]

namespace Sample

/-- Rules of one group, in two lines. -/
def twoLines : String := "\x7b\r\n\"groups\":[\x7b\"id\":\"g\"\x7d]\x7d"

/-- A text with U+0000 behind each character: its UTF-8 bytes are the UTF-16 bytes of the text without. -/
def spaced (s : String) : String := String.ofList (s.toList.flatMap fun c => [c, '\x00'])

/-- A text behind a byte order mark. -/
def marked (s : String) : String := String.ofList ('\uFEFF' :: s.toList)

/-- A file of these rules. -/
def twoLinesFile : Files := ⟨[(["a.json"], .file (Utf8.encode twoLines.toList))]⟩

/-- Neither exception can be left out: the bytes of the text with zeros, and those of the text behind a
mark, hold the group, and the texts are unusable. -/
theorem bytes_part_from_text :
    ((spaced twoLines).toList.head? ≠ some '\uFEFF' ∧
      (Document.read (.bytes (Utf8.encode (spaced twoLines).toList))).result ≠
        (Document.read (.text (spaced twoLines))).result) ∧
    Json.zeroPattern (Utf8.encode (marked twoLines).toList) = .utf8 ∧
      (Document.read (.bytes (Utf8.encode (marked twoLines).toList))).result ≠
        (Document.read (.text (marked twoLines))).result := by
  have hne {x y : Except Failure Document}
      (h : x.toOption.map Document.isEmpty ≠ y.toOption.map Document.isEmpty) : x ≠ y :=
    fun he => h (congrArg (fun r => r.toOption.map Document.isEmpty) he)
  refine ⟨⟨by decide +kernel, hne (by decide +kernel)⟩, by decide +kernel, ?_⟩
  obtain ⟨htext, hbytes⟩ := Document.result_of_marked twoLines.toList
  rw [marked, String.toList_ofList]
  change (Document.ofBytes _).result ≠ (Document.ofText _).result
  rw [htext, hbytes]
  exact hne (by decide +kernel)

/-- The hypotheses of `document_of_bytes` are satisfiable: the group is read from the bytes of the text, from
the file, whose lines end otherwise, and from the bytes of the text with zeros. -/
theorem document_of_bytes_twoLines :
    Json.zeroPattern (Utf8.encode twoLines.toList) = .utf8 ∧
      (Document.read (.bytes (Utf8.encode twoLines.toList))).result =
        (Document.read (.text twoLines)).result ∧
      (Registry.empty.loadFile twoLinesFile ["a.json"]).2.result =
        (Document.read (.text twoLines)).result ∧
      Json.zeroPattern (Utf8.encode (spaced twoLines).toList) = .utf16 .little ∧
      (Document.read (.bytes (Utf8.encode (spaced twoLines).toList))).result =
        (Document.read (.text twoLines)).result ∧
      (Document.read (.text (spaced twoLines))).result = .ok .empty ∧
      (Document.read (.text twoLines)).result.toOption.map Document.isEmpty = some false := by
  have hplain : Json.zeroPattern (Utf8.encode twoLines.toList) = .utf8 := by decide +kernel
  have hspaced : Json.zeroPattern (Utf8.encode (spaced twoLines).toList) = .utf16 .little := by
    decide +kernel
  have hdecode : Encoding.decode (.utf16 .little) (Utf8.encode (spaced twoLines).toList) =
      some twoLines.toList := by decide +kernel
  obtain ⟨hbytes, -, hfile⟩ := document_of_bytes twoLines
  obtain ⟨-, hzero, -⟩ := document_of_bytes (spaced twoLines)
  obtain ⟨htext, hother⟩ := hzero (by rw [hspaced]; decide)
  rw [hspaced, hdecode] at hother
  dsimp only at hother
  rw [String.ofList_toList] at hother
  exact ⟨hplain, hbytes (by decide +kernel) hplain,
    hfile twoLinesFile ["a.json"] Registry.empty (by decide +kernel) (by decide +kernel), hspaced, hother,
    htext, by decide +kernel⟩

end Sample

end Verdict
