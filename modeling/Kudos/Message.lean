import Kudos.Text.Basic

/-!
# Messages

The texts that the user sees.
-/

namespace Kudos.Message

/-- The tooltip of a flagged line. -/
def hover : Text :=
  "Right-click on the raised hands icon to say thanks".toList

/-- The reminder after some time without an edit. -/
def reminder : Text :=
  "Send a note of thanks to other developers!".toList

/-- The confirmation of a message of thanks. -/
def thanksSent : Text :=
  ("Your thanks has been sent! If you feel inspired to share more, don't hesitate " ++
    "to send a note to the contributors. Your words of encouragement can make a world " ++
    "of difference and let them know just how much their efforts are valued.").toList

/-- The request to fill out the survey. -/
def survey : Text :=
  "Please complete this quick survey!".toList

/-- The action that leads to the form for a longer note. -/
def sayMore : Text :=
  "Say More".toList

/-- The action that leads to the survey form. -/
def fillOutSurvey : Text :=
  "Fill Out Survey".toList

end Kudos.Message
