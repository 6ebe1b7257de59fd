/-
# Settings

The settings of the service come from environment variables.  The name of a variable is
`nameStem` and the name of a setting, in any letter case; of several names for one setting the
last counts.

| setting | variable holds | when absent |
| --- | --- | --- |
| `app_name` | text | `Rule Tree Evaluator` |
| `debug` | truth value | false |
| `log_level` | text | `info` |
| `json_logs` | truth value | true |
| `rules_dir` | text | the directory of the bundled rules |
| `block_on_validation_failures` | truth value | true |
| `parameters_considered` | a JSON list of texts, or null | none |
| `token_labels` | a JSON object of texts, or null | none |

A variable that should hold JSON and does not, or is nested too deeply, is reported before one of
a wrong shape.  There is taken to be no `.env` file beside the variables.
-/

import Verdict.Assessment.Policy
import Verdict.Evaluation.Label
import Verdict.Json.Reader
import Verdict.Report.Failure

namespace Verdict

/-- What the service is told by its environment. -/
structure Settings where
  appName : String
  debug : Bool
  logLevel : String
  jsonLogs : Bool
  rulesDirectory : String
  blocks : Bool
  parameters : List String
  labels : List (String × String)
deriving DecidableEq, Repr

/-- The variables of an environment, in order. -/
abbrev Environment := List (String × String)

namespace Settings

/-- What every variable's name starts with, in small letters. -/
def nameStem : String := "ruletree_"

/-- A small letter for a letter in any case; the Kelvin sign is a letter k. -/
def nameChar (c : Char) : Char := if c == '\u212A' then 'k' else Text.lowerChar c

/-- A variable's name in small letters. -/
def variableName (s : String) : String := String.ofList (s.toList.map nameChar)

/-- The text of the variable for a setting. -/
def textUnder? (env : Environment) (setting : String) : Option String :=
  (env.reverse.find? fun v => variableName v.1 == nameStem ++ setting).map (·.2)

/-- The value of a variable that holds JSON: null where it is absent. -/
def decoded (env : Environment) (setting : String) : Except Failure Value :=
  match textUnder? env setting with
  | none => .ok .null
  | some s =>
    match Json.read .request s.toList with
    | .ok v => .ok v
    | .error .tooDeep => .error .tooNested
    | .error _ => .error .settingText

/-- The truth value of a variable, or what stands for it where it is absent. -/
def flag? (env : Environment) (setting : String) (absent : Bool) : Option Bool :=
  match textUnder? env setting with
  | some s => Value.boolOfText? s
  | none => some absent

/-- The text of a variable, or what stands for it where it is absent. -/
def textOr (env : Environment) (setting absent : String) : String :=
  (textUnder? env setting).getD absent

/-- The texts that a value lists, none for null. -/
def textsOf? : Value → Option (List String)
  | .null => some []
  | v => Policy.textList? v

/-- Members whose values are texts. -/
def textMembers? : List (String × Value) → Option (List (String × String))
  | [] => some []
  | (k, v) :: r => v.asText?.bind fun s => (textMembers? r).map ((k, s) :: ·)

/-- The labels that a value holds, none for null. -/
def labelsOf? : Value → Option (List (String × String))
  | .null => some []
  | .object fields => textMembers? fields
  | _ => none

/-- The settings of an environment whose JSON has been read. -/
def build? (env : Environment) (parameters labels : Value) : Option Settings := do
  let debug ← flag? env "debug" false
  let jsonLogs ← flag? env "json_logs" true
  let blocks ← flag? env "block_on_validation_failures" true
  let parameters ← textsOf? parameters
  let labels ← labelsOf? labels
  pure {
    appName := textOr env "app_name" "Rule Tree Evaluator"
    debug := debug
    logLevel := textOr env "log_level" "info"
    jsonLogs := jsonLogs
    rulesDirectory := textOr env "rules_dir" "ruletree/rules/data"
    blocks := blocks
    parameters := parameters
    labels := labels }

/-- The settings of an environment. -/
def ofEnvironment (env : Environment) : Except Failure Settings :=
  match decoded env "parameters_considered", decoded env "token_labels" with
  | .error e, _ | .ok _, .error e => .error e
  | .ok parameters, .ok labels =>
    match build? env parameters labels with
    | some s => .ok s
    | none => .error .shape

/-- The catalogue of the labels in the settings. -/
def catalog (s : Settings) : Labels := Keyed.ofList (s.labels.map fun l => (l.1, .text l.2))

/-- The policy of the service where a request names none. -/
def policy (s : Settings) : Policy :=
  { Policy.standard with blocks := s.blocks, parameters := s.parameters }

end Settings
end Verdict
