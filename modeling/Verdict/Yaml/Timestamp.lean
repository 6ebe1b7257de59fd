/-
# Timestamps

A timestamp is a date, or a date and a time of day with an offset from universal time:

    year-month-day
    year-month-day (T or blanks) hour:minute:second (.digits)? (blanks? offset)?

where an offset is `Z` or a sign, an hour and perhaps `:minute`.
-/

import Verdict.Text.Digit
import Verdict.Yaml.Cursor

namespace Verdict
namespace Yaml

open Text

/-- A time of day, and the offset in minutes where one is written. -/
structure TimeOfDay where
  hour : Nat
  minute : Nat
  second : Nat
  offset : Option Nat
deriving DecidableEq, Repr

/-- A date, whether its month and day have two digits each, and a time of day. -/
structure Timestamp where
  year : Nat
  month : Nat
  day : Nat
  full : Bool
  time : Option TimeOfDay
deriving DecidableEq, Repr

namespace Timestamp

/-- The number of one or two digits at the front, how many they are, and what follows. -/
def takeShort? : List Char → Option (Nat × Nat × List Char)
  | a :: b :: r =>
    if isAsciiDigit a then
      if isAsciiDigit b then some ((a.toNat - 48) * 10 + (b.toNat - 48), 2, r)
      else some (a.toNat - 48, 1, b :: r)
    else none
  | [a] => if isAsciiDigit a then some (a.toNat - 48, 1, []) else none
  | [] => none

/-- The number of exactly two digits at the front, and what follows. -/
def takeTwo? (cs : List Char) : Option (Nat × List Char) :=
  (takeShort? cs).bind fun (n, width, r) => if width == 2 then some (n, r) else none

/-- What follows a mark at the front. -/
def takeMark? (mark : Char) : List Char → Option (List Char)
  | c :: r => if c == mark then some r else none
  | [] => none

/-- The offset that a whole text writes; its blanks may stand before it. -/
def offset? (cs : List Char) : Option (Option Nat) :=
  match cs.dropWhile isBlank with
  | [] => if cs.isEmpty then some none else none
  | ['Z'] => some (some 0)
  | c :: r =>
    if c == '+' || c == '-' then
      (takeShort? r).bind fun (hours, _, r) =>
        match r with
        | [] => some (some (hours * 60))
        | ':' :: r => (takeTwo? r).bind fun (minutes, r) =>
            if r.isEmpty then some (some (hours * 60 + minutes)) else none
        | _ => none
    else none

/-- A text without a point and the digits after it. -/
def dropFraction : List Char → List Char
  | '.' :: r => r.dropWhile isAsciiDigit
  | cs => cs

/-- The time of day that a whole text writes. -/
def time? (cs : List Char) : Option TimeOfDay := do
  let (hour, _, r) ← takeShort? cs
  let (minute, r) ← (takeMark? ':' r).bind takeTwo?
  let (second, r) ← (takeMark? ':' r).bind takeTwo?
  let offset ← offset? (dropFraction r)
  pure ⟨hour, minute, second, offset⟩

/-- What follows the separator between the date and the time. -/
def takeGap? : List Char → Option (List Char)
  | c :: r =>
    if c == 'T' || c == 't' then some r
    else if isBlank c then some (r.dropWhile isBlank)
    else none
  | [] => none

/-- The timestamp that a whole text writes. -/
def ofChars? (cs : List Char) : Option Timestamp := do
  let (century, r) ← takeTwo? cs
  let (years, r) ← takeTwo? r
  let (month, m, r) ← (takeMark? '-' r).bind takeShort?
  let (day, d, r) ← (takeMark? '-' r).bind takeShort?
  let full := m == 2 && d == 2
  if r.isEmpty then pure ⟨century * 100 + years, month, day, full, none⟩
  else
    let time ← (takeGap? r).bind time?
    pure ⟨century * 100 + years, month, day, full, some time⟩

/-- Whether a plain scalar is written as a timestamp: a date alone needs all its digits. -/
def isPlain (t : Timestamp) : Bool := t.full || t.time.isSome

/-- Whether a year has a 29th of February. -/
def isLeap (year : Nat) : Bool := year % 4 == 0 && (year % 100 != 0 || year % 400 == 0)

/-- How many days a month has. -/
def monthDays (year month : Nat) : Nat :=
  if month == 2 then if isLeap year then 29 else 28
  else if [4, 6, 9, 11].contains month then 30
  else 31

/-- Whether a time of day exists: an offset is less than a day. -/
def isPossibleTime (t : TimeOfDay) : Bool :=
  t.hour < 24 && t.minute < 60 && t.second < 60 && t.offset.all (· < 1440)

/-- Whether a timestamp exists. -/
def isPossible (t : Timestamp) : Bool :=
  1 ≤ t.year && 1 ≤ t.month && t.month ≤ 12 && 1 ≤ t.day && t.day ≤ monthDays t.year t.month &&
    t.time.all isPossibleTime

/-- The name of a timestamp's type. -/
def typeName (t : Timestamp) : String := if t.time.isSome then "datetime" else "date"

example : (ofChars? "2020-13-45".toList).map isPossible = some false := by decide +kernel
example : (ofChars? "2020-1-1 10:00:00 +1".toList).map isPlain = some true := by decide +kernel
example : (ofChars? "2020-1-1".toList).map isPlain = some false := by decide +kernel

end Timestamp
end Yaml
end Verdict
