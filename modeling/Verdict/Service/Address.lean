/-
# Request addresses

The address of a request names a resource by its path.

| address | path |
| --- | --- |
| `/` and nothing | `/` |
| `/rules/f%20g?x=1` | `/rules/f g` |
| `/rules/../health` | `/health` |
| `/health/..` | `/` |
| `//host/health`, `http://host/health` | `/health` |
| `health`, `http:health` | `/health` |

A path is decoded twice: once as part of the address, and once for the route.  An address is
refused where it is too long or holds a control character, and where its host, its port or the
front of its path cannot be told from other parts.  One that does not stand for itself is refused
where its path or its query is too long with its percent escapes.
-/

import Verdict.Report.Failure
import Verdict.Service.Host
import Verdict.Text.Encoding

namespace Verdict

/-- The parts of an address that count. -/
structure Address where
  scheme : List Char
  authority : List Char
  path : List Char
  query : List Char

namespace Address

open Text

/-- The most characters that an address may have. -/
def maxLength : Nat := 65536

/-- Whether a character is an ASCII control character. -/
def isControl (c : Char) : Bool := c.toNat < 32 || c.toNat == 127

/-- Whether a character is an ASCII letter. -/
def isLetter (c : Char) : Bool := let n := (lowerChar c).toNat; 97 ≤ n && n ≤ 122

/-- Whether a character may follow the first of a scheme. -/
def isSchemeChar (c : Char) : Bool := isLetter c || isAsciiDigit c || "+.-".toList.contains c

/-- The scheme at the front in small letters, and what follows its colon. -/
def takeScheme (cs : List Char) : List Char × List Char :=
  let name := if cs.head?.any isLetter then cs.takeWhile isSchemeChar else []
  match cs.drop name.length with
  | ':' :: r => (lower name, r)
  | _ => ([], cs)

/-- The authority behind two slashes at the front, and what follows it. -/
def takeAuthority : List Char → List Char × List Char
  | '/' :: '/' :: r => r.span fun c => c != '/' && c != '?' && c != '#'
  | cs => ([], cs)

/-- The parts of an address: a fragment does not count. -/
def ofChars (cs : List Char) : Address :=
  let (scheme, r) := takeScheme cs
  let (authority, r) := takeAuthority r
  let (path, r) := r.span fun c => c != '?' && c != '#'
  let query := match r with
    | '?' :: r => r.takeWhile (· != '#')
    | _ => []
  ⟨scheme, authority, path, query⟩

/-- The user, the host and the port of an address. -/
def parts (a : Address) : List Char × List Char × List Char := Host.parts a.authority

/-- Whether an address names a host, a user or a port. -/
def hasAuthority (a : Address) : Bool :=
  let (user, host, port) := a.parts
  !(user.isEmpty && host.isEmpty && port.isEmpty)

/-- Whether an address stands for itself: it has a scheme and a host. -/
def isAbsolute (a : Address) : Bool := !a.scheme.isEmpty && !a.parts.2.1.isEmpty

/-- Whether the parts of an address can be told from each other. -/
def isSound (a : Address) : Bool :=
  let (_, host, port) := a.parts
  Host.isHost host && Host.isPort port &&
    (!a.scheme.isEmpty || a.hasAuthority ||
      !("//".toList.isPrefixOf a.path || ":".toList.isPrefixOf a.path))

/-- Segments, latest first, after one more: a point stays, two points go back. -/
def stepSegment (done : List (List Char)) (segment : List Char) : List (List Char) :=
  if segment == ['.'] then done
  else if segment == ['.', '.'] then if done == [[]] then done else done.tail
  else segment :: done

/-- A path without the segments of points. -/
def withoutPoints (path : List Char) : List Char :=
  joinWith '/' ((splitOn '/' path).foldl stepSegment []).reverse

/-- The path from the root: one that does not stand for itself has no slashes at its front, once
its points are gone, and is freed of points behind them.  An empty path is the root. -/
def fromRoot (a : Address) : List Char :=
  let path := if !a.scheme.isEmpty || a.hasAuthority then withoutPoints a.path else a.path
  let path :=
    if a.isAbsolute then path else withoutPoints ('/' :: path.dropWhile (· == '/'))
  if path.isEmpty then ['/'] else path

/-! ### Percent escapes -/

/-- The length of a text with the percent escapes that it needs: a percent sign stays where it
begins an escape. -/
def escapedLength (kept : Char → Bool) : List Char → Nat
  | '%' :: a :: b :: r =>
    (if (hexDigit? a).isSome && (hexDigit? b).isSome then 1 else 3) +
      escapedLength kept (a :: b :: r)
  | c :: r =>
    (if c.toNat < 128 && c != '%' && kept c then 1 else 3 * (Utf8.encodeChar c).length) +
      escapedLength kept r
  | [] => 0

/-- Whether a character may stand in a query as it is. -/
def isQueryChar (c : Char) : Bool := !" \x22#<>".toList.contains c

/-- Whether a character may stand in a path as it is. -/
def isPathChar (c : Char) : Bool := isQueryChar c && !"?\x60\x7b\x7d".toList.contains c

/-- Whether the path and the query of an address are short enough with their percent escapes. -/
def isShort (a : Address) : Bool :=
  escapedLength isPathChar a.fromRoot ≤ maxLength && escapedLength isQueryChar a.query ≤ maxLength

/-- The bytes of a path whose percent escapes are decoded. -/
def percentBytes : List Char → List UInt8
  | '%' :: a :: b :: r =>
    match hexDigit? a, hexDigit? b with
    | some x, some y => (x * 16 + y).toUInt8 :: percentBytes r
    | _, _ => Utf8.encodeChar '%' ++ percentBytes (a :: b :: r)
  | c :: r => Utf8.encodeChar c ++ percentBytes r
  | [] => []

/-- A path whose percent escapes are decoded. -/
def percentDecode (path : List Char) : List Char :=
  if path.contains '%' then Utf8.decodeLossy (percentBytes path) else path

/-- The schemes of requests. -/
def requestSchemes : List String := ["http", "https"]

/-- The schemes of lasting connections. -/
def socketSchemes : List String := ["ws", "wss"]

/-- The path of an address, decoded. -/
def pathOf (address : String) : Except Failure (List Char) :=
  let cs := address.toList
  let a := ofChars cs
  let scheme := String.ofList a.scheme
  if maxLength < cs.length || cs.any isControl || !a.isSound then .error .badAddress
  else if !a.isAbsolute && !a.isShort then .error .badAddress
  else if a.isAbsolute && !(requestSchemes ++ socketSchemes).contains scheme then
    .error (.unknownScheme scheme)
  else if a.isAbsolute && Host.isGroups a.parts.2.1 then .error .groupedHost
  else if a.isAbsolute && socketSchemes.contains scheme then .error .socketAddress
  else .ok (percentDecode (percentDecode a.fromRoot))

/-- The segments of a path behind its root: the root alone has none, and what has no root has an
empty one. -/
def segments (path : List Char) : List String :=
  match splitOn '/' path with
  | [_, []] => []
  | _ :: part :: parts => (part :: parts).map String.ofList
  | _ => [""]

example : (pathOf "").toOption = some "/".toList := by decide +kernel
example : (pathOf "/rules/f%20g?x=1").toOption = some "/rules/f g".toList := by decide +kernel
example : (pathOf "../rules/../health").toOption = some "/health".toList := by decide +kernel
example : (pathOf "/health/..").toOption = some "/".toList := by decide +kernel
example : (pathOf "//host/health").toOption = some "/health".toList := by decide +kernel
example : (pathOf "////health").toOption = none := by decide +kernel
example : segments "/rules/".toList = ["rules", ""] := by decide +kernel

end Address
end Verdict
