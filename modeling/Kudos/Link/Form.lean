import Kudos.Json.Printer
import Kudos.Link.Percent

/-!
# Links to forms

A link to a questionnaire carries the user id and the line that the answer is about; the line is
filled in as the answer to one question.
-/

namespace Kudos.Form

/-- The answers that a form is filled in with: a line as the answer to a question. -/
def answers (question line : Text) : Json :=
  .object [(Utf16.encode question, .ofText line)]

/-- The link to a form. -/
def url (base user question line : Text) : Text :=
  base ++ "?userid=".toList ++ user ++ "&Q_PopulateResponse=".toList ++
    Percent.encode ((answers question line).write .compact)

/-- The form for a longer note. -/
def sayMore : Text :=
  "https://cmu.ca1.qualtrics.com/jfe/form/SV_3Oj5m8n4yE0oHRk".toList

/-- The question of that form which is about the line. -/
def sayMoreQuestion : Text :=
  "QID4".toList

/-- The survey form. -/
def survey : Text :=
  "https://cmu.ca1.qualtrics.com/jfe/form/SV_eEUHt3Lb3sOifMG".toList

/-- The question of that form which is about the line. -/
def surveyQuestion : Text :=
  "QID11".toList

end Kudos.Form
