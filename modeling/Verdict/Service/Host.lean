/-
# Hosts

The authority of an address names a host, and perhaps a user and a port:

    user@host:port

| host | has to be |
| --- | --- |
| digits in four groups | four numbers up to 255 with points between them |
| in brackets | eight groups of hexadecimal digits; `::` stands for any number of zeros |
| anything else | no matter what |

A port is an integer, of a limited number of digits.
-/

import Verdict.Text.Blank
import Verdict.Text.Digit
import Verdict.Text.Letters
import Verdict.Text.Split
import Verdict.Value.Lenient

namespace Verdict
namespace Host

open Text

/-- Whether a text looks like a number of groups of digits and one more, with a character between
any two. -/
def isGrouped : Nat → List Char → Bool
  | _, [] => false
  | 0, c :: r => isAsciiDigit c && (r.isEmpty || isGrouped 0 r)
  | _ + 1, [_] => false
  | n + 1, c :: d :: r => isAsciiDigit c && (isGrouped (n + 1) (d :: r) || isGrouped n r)

/-- Whether digits write a number up to 255, with no zero at their front. -/
def isOctet (cs : List Char) : Bool :=
  !cs.isEmpty && cs.length ≤ 3 && cs.all isAsciiDigit && (cs.length == 1 || cs.head? != some '0') &&
    ofDigits (cs.map fun c => c.toNat - 48) ≤ 255

/-- Whether a text is four numbers up to 255 with points between them. -/
def isQuad (cs : List Char) : Bool :=
  let parts := splitOn '.' cs
  parts.length == 4 && parts.all isOctet

/-- Whether a text is up to four hexadecimal digits. -/
def isHextet (cs : List Char) : Bool :=
  !cs.isEmpty && cs.length ≤ 4 && cs.all fun c => (hexDigit? c).isSome

/-- Groups in which four numbers at the end count as two groups. -/
def withoutQuad (groups : List (List Char)) : List (List Char) :=
  match groups.getLast? with
  | some last => if isQuad last then groups.dropLast ++ [['0'], ['0']] else groups
  | none => groups

/-- Groups before or behind a gap: an empty one alone stands for none. -/
def besideGap (groups : List (List Char)) : List (List Char) :=
  if groups == [[]] then [] else groups

/-- Whether groups are eight, or fewer around one gap. -/
def areGroups (groups : List (List Char)) : Bool :=
  let inner := groups.tail.dropLast
  let gap := (inner.takeWhile fun g => !g.isEmpty).length + 1
  let others := besideGap (groups.take gap) ++ besideGap (groups.drop (gap + 1))
  if inner.all fun g => !g.isEmpty then groups.length == 8 && groups.all isHextet
  else others.length ≤ 7 && others.all isHextet

/-- Whether a text in brackets is a host: a zone may follow a percent sign. -/
def isBracketed (cs : List Char) : Bool :=
  match splitOn '%' cs with
  | [groups] => areGroups (withoutQuad (splitOn ':' groups))
  | [groups, zone] => !zone.isEmpty && areGroups (withoutQuad (splitOn ':' groups))
  | _ => false

/-- Whether a host is written in brackets. -/
def isGroups (cs : List Char) : Bool :=
  1 < cs.length && cs.head? == some '[' && cs.getLast? == some ']'

/-- Whether a text may be a host. -/
def isHost (cs : List Char) : Bool :=
  if isGrouped 3 cs then isQuad cs
  else if isGroups cs then isBracketed cs.tail.dropLast
  else true

/-- A number without the sign at its front. -/
def unsigned : List Char → List Char
  | '+' :: r => r
  | '-' :: r => r
  | cs => cs

/-- Whether a text is nothing, or an integer. -/
def isPort (cs : List Char) : Bool :=
  let parts := splitOn '_' (unsigned (trimSpaces cs))
  cs.isEmpty || (parts.all (fun part => !part.isEmpty && part.all isDigit) &&
    parts.flatten.length ≤ Value.maxIntegerDigits)

/-- The user, the host and the port of an authority. -/
def parts (authority : List Char) : List Char × List Char × List Char :=
  let (user, place) := (splitLast? '@' authority).getD ([], authority)
  let bracketed := (splitLast? ']' place).filter fun _ => place.head? == some '['
  let (host, port) := match bracketed with
    | some (host, port) => (host ++ [']'], port)
    | none => place.span (· != ':')
  (user, host, match port with
    | ':' :: r => r
    | r => r)

example : isHost "[::1]".toList ∧ isHost "[1:2:3:4:5:6:7::]".toList := by decide +kernel
example : !isHost "[1]".toList ∧ !isHost "[::1::]".toList ∧ !isHost "1.2.3.256".toList := by
  decide +kernel
example : parts "me@host:80".toList = ("me".toList, "host".toList, "80".toList) := by
  decide +kernel

end Host
end Verdict
