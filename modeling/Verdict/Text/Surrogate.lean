/-
# Surrogates in escapes

A backslash, a letter and a number of hexadecimal digits write a number, which may be a surrogate.  Where
two of them in a row are a pair they stand for one character.  Any other surrogate is alone, and no text
that holds one can be written out.

| escapes | numbers | in pairs |
| --- | --- | --- |
| `\ud83d\ude00` | the two halves of a pair | yes |
| `\ude00\ud83d` | a second half and a first one | no |
| `\ud83d.\ude00` | two halves that something stands between | no |
-/

import Verdict.Text.Encoding
import Verdict.Text.Letters

namespace Verdict
namespace Text

/-- The number that hexadecimal digits write. -/
def ofHex? (cs : List Char) : Option Nat :=
  (cs.mapM hexDigit?).map fun ds => ds.foldl (fun n d => 16 * n + d) 0

/-- The number that the digits behind an escape's letter write, and how many they are: each letter takes a
number of digits of its own. -/
def escapedNumber? (widths : List (Char × Nat)) (letter : Char) (cs : List Char) :
    Option (Nat × Nat) :=
  match widths.lookup letter with
  | some width =>
    if (cs.take width).length == width then (ofHex? (cs.take width)).map (·, width) else none
  | none => none

/-- The numbers that the escapes in a text write, in order, and nothing for every other escape and
character. -/
def escapedNumbers (widths : List (Char × Nat)) (cs : List Char) : List (Option Nat) :=
  match cs with
  | '\\' :: c :: r =>
    match escapedNumber? widths c r with
    | some (n, width) => some n :: escapedNumbers widths (r.drop width)
    | none => none :: escapedNumbers widths r
  | _ :: r => none :: escapedNumbers widths r
  | [] => []
termination_by cs.length
decreasing_by all_goals simp only [List.length_cons, List.length_drop]; omega

/-- Whether every surrogate among numbers is one of a pair. -/
def inPairs : List (Option Nat) → Bool
  | some high :: some low :: r =>
    if isHighSurrogate high && isLowSurrogate low then inPairs r
    else !isSurrogate high && inPairs (some low :: r)
  | some n :: r => !isSurrogate n && inPairs r
  | none :: r => inPairs r
  | [] => true

example : inPairs (escapedNumbers [('u', 4)] "\\ud83d\\ude00".toList) = true := by decide +kernel
example : inPairs (escapedNumbers [('u', 4)] "\\ud83d.\\ude00".toList) = false := by decide +kernel
example : inPairs (escapedNumbers [('u', 4)] "\\\\ud83d".toList) = true := by decide +kernel

end Text
end Verdict
