/-
# Failures

A failure ends an operation.  Rules that cannot be used are no failure: they stand for the
empty document, and a notice says so.

| failure | arises from |
| --- | --- |
| `decimalRange` | a number in rule text whose exponent no decimal has |
| `shape` | a field whose value has the wrong type |
| `tooDeep` | a document nested too deeply to be written out |
| `tooNested` | a YAML text or a setting nested too deeply to be read |
| `noMembers` | facts or labels that are not an object |
| `unknownToken` | a look-up of a token that a table does not hold |
| `tooManyDigits` | an integer with more digits than a text can have |
| `fileMissing`, `directoryMissing`, `noDirectory` | a path that leads nowhere, or none at all |
| `isDirectory`, `notDirectory` | a path that leads to the wrong kind of thing |
| `nameTooLong` | a path with a name that no file can have |
| `notUtf8` | a rule file, or a body that an answer has to quote, that is not UTF-8 |
| `scalarText`, `scalarWord` | a scalar whose text or word its tag does not allow |
| `scalarEmpty`, `scalarPattern` | a number without digits, a timestamp of another form |
| `scalarKind` | a timestamp that is no scalar |
| `scalarRange` | a number with more parts in base 60 than a power of 60 can weigh |
| `escapeRange` | an escape whose code point is beyond the range of words |
| `settingText` | a setting whose text is not JSON |
| `badAddress`, `unknownScheme` | the address of a request that has no path, or another protocol's |
| `groupedHost` | the address of a request whose host is groups of digits in brackets |
| `socketAddress` | the address of a lasting connection |
| `headerText` | a content type that is not ASCII |
| `notJson` | a body with a value that JSON does not know |
| `notFinite` | an answer that would have to quote a number that is not finite |
| `tooDeepToShow` | an answer with a document nested too deeply to be shown |
-/

namespace Verdict

/-- Why an operation ended without a result. -/
inductive Failure where
  | decimalRange
  | shape
  | tooDeep
  | tooNested
  | noMembers
  | unknownToken (key : String)
  | tooManyDigits
  | fileMissing (name : String)
  | directoryMissing (name : String)
  | noDirectory
  | isDirectory
  | notDirectory
  | nameTooLong
  | notUtf8
  | scalarText
  | scalarWord (word : String)
  | scalarEmpty
  | scalarPattern
  | scalarKind
  | scalarRange
  | escapeRange
  | settingText
  | badAddress
  | unknownScheme (name : String)
  | groupedHost
  | socketAddress
  | headerText
  | notJson
  | notFinite
  | tooDeepToShow
deriving DecidableEq, Repr

/-- The message of the failures that have one. -/
def Failure.message? : Failure → Option String
  | .unknownToken key => some key
  | .scalarWord word => some word
  | .unknownScheme name => some name
  | .fileMissing name => some ("Rule file not found: " ++ name)
  | .directoryMissing name => some ("Rules directory not found: " ++ name)
  | .noDirectory => some "No rules directory specified"
  | _ => none

end Verdict
