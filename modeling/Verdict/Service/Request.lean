/-
# Requests

A request for an evaluation or an assessment carries a JSON object.

| member | takes | when absent |
| --- | --- | --- |
| `rules` | an object, a text or null | null |
| `rule_id` | a text or null | null |
| `facts` | an object | no facts |
| `labels` | an object of texts, or null | null |
| `validation_failures` | a list of texts | none |
| `policy` | an object that describes a policy, or null | null |

The last two count for assessments only.  Bytes that are no text, or a number or a nesting
that is too large, make a body unreadable; any other fault makes it unprocessable.  The answer to
an unprocessable body quotes the values that do not fit, and so fails where one of them cannot be
quoted: bytes that are not UTF-8, or a number that is not finite.
-/

import Verdict.Assessment.Policy
import Verdict.Json.Bytes
import Verdict.Report.Basic
import Verdict.Service.Settings
import Verdict.Text.Blank
import Verdict.Text.Split

namespace Verdict

/-- A request to the service. -/
structure Request where
  method : String
  address : String
  contentType : Option String
  body : List UInt8

/-- An answer of the service. -/
structure Response where
  status : Nat
  body : Option Value

namespace Response

/-- A successful answer. -/
def ok (v : Value) : Response := ⟨200, some v⟩

/-- An answer that gives a reason. -/
def refused (status : Nat) (detail : String) : Response :=
  ⟨status, some (.object [("detail", .text detail)])⟩

/-- The answer to an unknown address. -/
def notFound : Response := refused 404 "Not Found"

/-- The answer to a method that an address does not know. -/
def methodNotAllowed : Response := refused 405 "Method Not Allowed"

/-- The answer to a body that cannot be read. -/
def unreadable : Response := refused 400 "There was an error parsing the body"

/-- The answer to a body of the wrong shape. -/
def unprocessable : Response := ⟨422, none⟩

/-- The answer for an id that is not registered. -/
def noRule (id : String) : Response := refused 404 ("Rule not found: " ++ id)

end Response

namespace Request

/-- Whether a content type is that of JSON: parameters and letter case are of no account. -/
def isJson (contentType : Option String) : Bool :=
  let kind := Text.trim (((contentType.getD "").toList.takeWhile (· != ';')))
  match Text.splitOn '/' (Text.lower kind) with
  | [main, sub] =>
    main == "application".toList && (sub == "json".toList || "+json".toList.isSuffixOf sub)
  | _ => false

/-- Whether the content type is ASCII. -/
def hasPlainHeader (r : Request) : Bool :=
  (r.contentType.getD "").toList.all fun c => c.toNat < 128

end Request

namespace Value

mutual

/-- Whether all numbers in a value are finite. -/
def allFinite : Value → Bool
  | .float x => x.isFinite
  | .list items => areFinite items
  | .object fields => membersFinite fields
  | _ => true

/-- Whether all numbers in values are finite. -/
def areFinite : List Value → Bool
  | [] => true
  | v :: r => v.allFinite && areFinite r

/-- Whether all numbers in the values of members are finite. -/
def membersFinite : List (String × Value) → Bool
  | [] => true
  | (_, v) :: r => v.allFinite && membersFinite r

end

/-- The failure to quote a value in an answer, if it cannot be quoted. -/
def quoteFailure? : Value → Option Failure
  | .bytes bs => if (Text.Utf8.decode bs).isSome then none else some .notUtf8
  | v => if v.allFinite then none else some .notFinite

end Value

/-- Why a body fills in no form. -/
inductive Rejection where
  | unreadable
  | unfit (values : List Value)

/-- The answer to a body that fills in no form. -/
def Rejection.answer : Rejection → Reported Response
  | .unreadable => .done .unreadable
  | .unfit values =>
    match values.findSome? Value.quoteFailure? with
    | some e => .fail e
    | none => .done .unprocessable

namespace Request

/-- The value of a body: its bytes where it is not JSON by its type, and null where it is
empty. -/
def bodyValue (r : Request) : Except Rejection Value :=
  if r.body.isEmpty then .ok .null
  else if !isJson r.contentType then .ok (.bytes r.body)
  else
    match Json.decodeBytes r.body with
    | none => .error .unreadable
    | some cs =>
      match Json.read .request cs with
      | .ok v => .ok v
      | .error .malformed => .error (.unfit [])
      | .error _ => .error .unreadable

/-- The members of a body that is an object. -/
def bodyFields (r : Request) : Except Rejection (List (String × Value)) :=
  match r.bodyValue with
  | .ok (.object fields) => .ok fields
  | .ok v => .error (.unfit [v])
  | .error e => .error e

end Request

/-- The value of a member that does not fit its reading, if it is one. -/
def misfit {α : Type} (read? : Value → Option α) (name : String) (fields : List (String × Value)) :
    List Value :=
  match Value.lookup? name fields with
  | some v => if (read? v).isSome then [] else [v]
  | none => []

/-- The values of members that are not texts. -/
def notTexts (values : List Value) : List Value := values.filter fun v => v.asText?.isNone

/-- The values that do not fit a field that lists texts. -/
def textListMisfits (name : String) (fields : List (String × Value)) : List Value :=
  match Value.lookup? name fields with
  | some (.list items) => notTexts items
  | some v => [v]
  | none => []

/-- What a request for an evaluation says. -/
structure EvaluationForm where
  rules : Value
  ruleId : Option String
  facts : Value
  labels : Value

namespace EvaluationForm

/-- The rule id that a form names: the empty one names no rule. -/
def named? (form : EvaluationForm) : Option String := form.ruleId.filter (· ≠ "")

/-- The rules of a request. -/
def rules? : Value → Option Value
  | .null => some .null
  | .text s => some (.text s)
  | .object fields => some (.object fields)
  | _ => none

/-- The rule id of a request. -/
def ruleId? : Value → Option (Option String)
  | .null => some none
  | .text s => some (some s)
  | _ => none

/-- The facts of a request. -/
def facts? : Value → Option Value
  | .object fields => some (.object fields)
  | _ => none

/-- The labels of a request. -/
def labels? : Value → Option Value
  | .null => some .null
  | .object fields =>
    (Settings.textMembers? fields).map fun ls => .object (ls.map fun l => (l.1, .text l.2))
  | _ => none

/-- The form that an object's members fill in. -/
def ofFields? (fields : List (String × Value)) : Option EvaluationForm := do
  let rules ← rules? ((Value.lookup? "rules" fields).getD .null)
  let ruleId ← ruleId? ((Value.lookup? "rule_id" fields).getD .null)
  let facts ← facts? ((Value.lookup? "facts" fields).getD (.object []))
  let labels ← labels? ((Value.lookup? "labels" fields).getD .null)
  pure ⟨rules, ruleId, facts, labels⟩

/-- The values of members that do not fit the form. -/
def misfits (fields : List (String × Value)) : List Value :=
  misfit rules? "rules" fields ++ misfit ruleId? "rule_id" fields ++ misfit facts? "facts" fields ++
    match Value.lookup? "labels" fields with
    | some (.object labels) => notTexts (labels.map (·.2))
    | _ => misfit labels? "labels" fields

end EvaluationForm

/-- What a request for an assessment says. -/
structure AssessmentForm where
  evaluation : EvaluationForm
  failures : List String
  policy : Option Policy

/-- The form that an object's members fill in. -/
def AssessmentForm.ofFields? (fields : List (String × Value)) : Option AssessmentForm := do
  let evaluation ← EvaluationForm.ofFields? fields
  let failures ← Policy.textList? ((Value.lookup? "validation_failures" fields).getD (.list []))
  let policy ← Policy.ofValue? ((Value.lookup? "policy" fields).getD .null)
  pure ⟨evaluation, failures, policy⟩

/-- The values of a policy's members that do not fit them. -/
def Policy.misfits (fields : List (String × Value)) : List Value :=
  misfit Value.asBool? "block_on_validation_failures" fields ++
    textListMisfits "parameters_considered" fields ++
    misfit Value.asText? "validation_failed_message" fields ++
    misfit Value.asText? "eligible_message" fields ++
    misfit Value.asText? "not_eligible_message" fields

/-- The values of members that do not fit the form. -/
def AssessmentForm.misfits (fields : List (String × Value)) : List Value :=
  EvaluationForm.misfits fields ++ textListMisfits "validation_failures" fields ++
    match Value.lookup? "policy" fields with
    | some (.object policy) => Policy.misfits policy
    | _ => misfit Policy.ofValue? "policy" fields

end Verdict
