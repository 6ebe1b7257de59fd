/-
# The bundled rules

Two rule files come with the library:

| file | rules |
| --- | --- |
| `household_assistance.json` | income and expenses, and the household |
| `work_hours.yaml` | employment or education |
-/

import Verdict.Registry.Basic

namespace Verdict
namespace Bundled

/-- The rules on assistance for households. -/
def householdAssistance : String :=
"\x7b
  \"operator\": \"AND\",
  \"groups\": [
    \x7b
      \"id\": \"Q1\",
      \"label\": \"Income and expenses\",
      \"operator\": \"AND\",
      \"conditions\": [
        \x7b \"id\": \"c1\", \"token\": \"applicableincome\", \"operator\": \"equals\", \"value\": true \x7d,
        \x7b \"id\": \"c2\", \"token\": \"applicableexpense\", \"operator\": \"equals\", \"value\": true \x7d
      ],
      \"groups\": []
    \x7d,
    \x7b
      \"id\": \"Q2\",
      \"label\": \"Household\",
      \"operator\": \"OR\",
      \"conditions\": [
        \x7b \"id\": \"c3\", \"token\": \"householdsize\", \"operator\": \">=\", \"value\": 3 \x7d
      ],
      \"groups\": [
        \x7b
          \"id\": \"Q2a\",
          \"label\": \"Single parent\",
          \"operator\": \"AND\",
          \"conditions\": [
            \x7b \"id\": \"c4\", \"token\": \"singleparent\", \"operator\": \"=\", \"value\": \"yes\" \x7d,
            \x7b \"id\": \"c5\", \"token\": \"monthlyincome\", \"operator\": \"<\", \"value\": 2500.50 \x7d
          ]
        \x7d
      ]
    \x7d
  ]
\x7d
"

/-- The rules on hours of work. -/
def workHours : String :=
"operator: OR
groups:
  - id: W1
    label: Employment
    operator: AND
    conditions:
      - id: w1
        token: hours
        operator: greaterorequal
        value: 25
      - id: w2
        token: employed
        operator: equals
        value: true
  - id: W2
    label: Education
    operator: AND
    conditions:
      - id: w3
        token: enrolled
        operator: equals
        value: \"Yes\"
"

/-- The bytes of a text, as a file. -/
def textFile (s : String) : FileNode := .file (Text.Utf8.encode s.toList)

/-- The files that come with the library. -/
def files : Files :=
  ⟨[(["household_assistance.json"], textFile householdAssistance),
    (["work_hours.yaml"], textFile workHours)]⟩

end Bundled
end Verdict
