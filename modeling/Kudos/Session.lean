import Kudos.Analysis
import Kudos.Detector
import Kudos.Display.Decoration
import Kudos.Identity
import Kudos.Keyword
import Kudos.Link.Form
import Kudos.Message
import Kudos.Notifier
import Kudos.Settings
import Kudos.Timer

/-!
# Sessions

A session is a sequence of editor events. It keeps what has to last between them: the analysis of
the document that was looked at last, its decorations, the active document, the detector of new
imports, the reminder timer, and the identity of the user once it is known.

Documents of an editor are compared by identity and not by content, so each has a number. A document
that is edited while another one is active is checked for new imports, but not analysed.

The events are the type `Session.Event`, and `Session.perform` says what each of them does.
-/

namespace Kudos

/-- What a timer of a session is for. -/
inductive Purpose where
  /-- The reminder after some time without an edit. -/
  | reminder
  /-- Reading a watched file again. -/
  | reload
  deriving Repr, DecidableEq

/-- A document in an editor. -/
structure Buffer where
  /-- The number that tells it from all others. -/
  id : Nat
  /-- Its content. -/
  document : Document
  deriving Repr, DecidableEq

/-- The tooltip of a flagged line. -/
structure Tooltip where
  /-- The text. -/
  message : Text
  /-- The line. -/
  line : Int
  /-- The column at which its range starts. -/
  startColumn : Nat := 0
  /-- The column at which its range ends. -/
  endColumn : Nat := 1
  deriving Repr, DecidableEq

/-- What became of a message of thanks. -/
structure Outcome where
  /-- The record that was sent. -/
  record : Record
  /-- The link to the form for a longer note, if it was asked for. -/
  sayMoreLink : Option Text := none
  /-- The link to the survey, if it was asked for. -/
  surveyLink : Option Text := none
  /-- The counter after the message. -/
  counter : Int
  /-- Whether the survey was offered. -/
  surveyOffered : Bool
  deriving Repr

/-- The state of a session. -/
structure Session where
  /-- The settings. -/
  settings : Settings
  /-- How messages reach the user. -/
  notifier : Notifier
  /-- Where records go. -/
  sink : Sink
  /-- Where the identity is kept. -/
  identity : Identity
  /-- The kind of color theme. -/
  theme : Theme
  /-- The last analysis. -/
  result : Analysis := {}
  /-- The decorations of the last analysis. -/
  decorations : List Decoration := []
  /-- Whether the document of the last analysis imports anything. -/
  hasImport : Bool := false
  /-- The line that thanks were last said for. -/
  activeLine : Option Text := none
  /-- The active document. -/
  active : Option Buffer := none
  /-- The detector of new imports. -/
  detector : Detector := {}
  /-- The pending reminder. -/
  reminder : TimerSlot Purpose
  /-- All timers of the session. -/
  timers : Timers Purpose := []
  /-- The user id, once it is known. -/
  user : Option Text := none
  /-- The survey counter, once it is known. -/
  counter : Option Counter := none

/-- A session on its host. -/
structure Desk where
  /-- The session. -/
  session : Session
  /-- The host. -/
  host : Host

/-- An action on a session and its host. -/
abbrev Work (α : Type) := ActionOn Desk α

namespace Work

/-- An action on the host alone. -/
def onHost {α : Type} (a : Action α) : Work α :=
  ExceptT.mk fun d =>
    let (r, host) := a.run d.host
    (r, { d with host })

/-- The session. -/
def session : Work Session := do
  return (← get).session

/-- Changes the session. -/
def change (f : Session → Session) : Work Unit :=
  modify fun d => { d with session := f d.session }

end Work

namespace Session

/-- The collection of messages of thanks. -/
def responsesCollection : Text := "responses".toList

/-- A new session. -/
def start (settings : Settings) (notifier : Notifier) (sink : Sink) (identity : Identity) :
    Session :=
  { settings, notifier, sink, identity
    theme := .ofName settings.colorTheme
    reminder := { delay := settings.inactivity, purpose := .reminder } }

/-- The decorations of an analysis. -/
def decorate (a : Analysis) (theme : Theme) : List Decoration :=
  Decoration.ofLines (a.lines.map Int.ofNat) theme

/-- Analyses a document and renews what depends on the analysis. -/
def refresh (s : Session) (d : Document) : Session :=
  let result := Analysis.ofDocument d
  { s with result, decorations := decorate result s.theme, hasImport := result.hasImport }

/-- Schedules the reminder anew. -/
def armReminder (s : Session) : Session :=
  let (reminder, timers) := s.reminder.schedule s.timers
  { s with reminder, timers }

/-- Stops the reminder. -/
def stopReminder (s : Session) : Session :=
  let (reminder, timers) := s.reminder.stop s.timers
  { s with reminder, timers }

/-- Schedules the reminder if the active document mentions imports, and stops it if it does not. -/
def checkKeyword (s : Session) : Session :=
  match s.active with
  | none => s
  | some b => if b.document.mentionsImports then s.armReminder else s.stopReminder

/-- Makes a document active, or none. -/
def switchTo (s : Session) : Option Buffer → Session
  | none => { s with active := none }
  | some b => ({ s with active := some b }.refresh b.document).checkKeyword

/-- Changes the theme by name and decorates the last analysis anew. -/
def changeTheme (s : Session) (name : Text) : Session :=
  let theme := Theme.ofName name
  { s with theme, decorations := decorate s.result theme }

/-- Whether the last analysis flags a line. -/
def isFlagged (s : Session) (line : Int) : Bool :=
  s.result.lines.any fun n => (n : Int) = line

/-- The tooltip of a line, if it is flagged. -/
def tooltip? (s : Session) (line : Int) : Option Tooltip :=
  if s.isFlagged line then some { message := Message.hover, line } else none

/-- Whether a document is the active one. -/
def isActive (s : Session) (b : Buffer) : Bool :=
  s.active.any fun a => a.id = b.id

open Work

/-- Takes note of edits in a document. The result is its analysis if it is the active one. -/
def edit (b : Buffer) (edits : List Edit) : Work (Option Analysis) := do
  change armReminder
  let s ← session
  let (detector, more) := s.detector.edited b.document edits
  if more then onHost (s.notifier.inform Detector.newImportMessage none)
  change ({ · with detector })
  if s.isActive b then
    change (·.refresh b.document)
    return some (← session).result
  else return none

/-- Shows the reminder, if the active document mentions imports. -/
def remind : Work Unit := do
  let s ← session
  match s.active with
  | none => return
  | some b =>
    if b.document.mentionsImports then
      onHost (s.notifier.inform Message.reminder (some s.settings.dismiss))

/-- The user id, which is looked up once. -/
def userId : Work Text := do
  let s ← session
  match s.user with
  | some id => return id
  | none =>
    let id ← onHost s.identity.userId
    change ({ · with user := some id })
    return id

/-- The survey counter, which is looked up once. -/
def surveyCounter : Work Counter := do
  let s ← session
  match s.counter with
  | some c => return c
  | none =>
    let c ← onHost s.identity.loadCounter
    change ({ · with counter := some c })
    return c

/-- The link to a form about the line that thanks were last said for; none without such a line. -/
def formLink (base question : Text) : Work (Option Text) := do
  match (← session).activeLine with
  | none => return none
  | some [] => return none
  | some line => return some (Form.url base (← userId) question line)

/-- The link to the form for a longer note. -/
def sayMoreLink : Work (Option Text) :=
  formLink Form.sayMore Form.sayMoreQuestion

/-- The link to the survey. -/
def surveyLink : Work (Option Text) :=
  formLink Form.survey Form.surveyQuestion

/-- The record of a message of thanks. -/
def thanksRecord (line : Int) (text : Text) (now : Timestamp) (user : Text) : Record := [
  ("lineNumber".toList, .number (.whole line)),
  ("activeLine".toList, .text text),
  ("timestamp".toList, .time now),
  ("userId".toList, .text user)]

/-- Offers an action, and makes its link if the user takes it. -/
def offerLink (message action : Text) (link : Work (Option Text)) : Work (Option Text) := do
  if ← onHost ((← session).notifier.offer message action) then link else return none

/-- Says thanks for a line of a document, counted from one. -/
def sayThanks (d : Document) (line : Int) : Work Outcome := do
  match d.lineAt (line - 1) with
  | .error _ => throw (.lineOutside line d.lineCount)
  | .ok text =>
    change ({ · with activeLine := some text })
    let user ← userId
    let counter ← surveyCounter
    let record := thanksRecord line text (← get).host.now user
    let sink := (← session).sink
    onHost (modify (sink.submitInBackground responsesCollection record))
    let sayMoreLink ← offerLink Message.thanksSent Message.sayMore sayMoreLink
    let identity := (← session).identity
    let (value, surveyOffered) ← onHost (identity.advanceCounter counter.value)
    change ({ · with counter := some ⟨value, false⟩ })
    let surveyLink ←
      if surveyOffered then offerLink Message.survey Message.fillOutSurvey surveyLink
      else pure none
    return { record, sayMoreLink, surveyLink, counter := value, surveyOffered }

/-- An event of a session. -/
inductive Event where
  /-- A document is opened. -/
  | opened (b : Buffer)
  /-- The editor shows another document, or none. -/
  | switched (b : Option Buffer)
  /-- A document is to be analysed. -/
  | refreshed (b : Buffer)
  /-- A document was edited. -/
  | edited (b : Buffer) (edits : List Edit)
  /-- The selection moved. -/
  | selected
  /-- The theme changed to one of another name. -/
  | themed (name : Text)
  /-- The pointer rests on a line. -/
  | hovered (line : Int)
  /-- The active document is to be checked for a mention of imports. -/
  | checked
  /-- The delay of a timer is over. -/
  | fired (timer : Nat)
  /-- The user says thanks for a line of a document. -/
  | thanked (b : Buffer) (line : Int)
  /-- The link to the form for a longer note is asked for. -/
  | saidMore
  /-- The link to the survey is asked for. -/
  | surveyed
  /-- The survey counter is asked for. -/
  | countAsked
  /-- The user id is asked for. -/
  | userAsked
  /-- The session ends. -/
  | closed

/-- What an event answers. -/
inductive Reply where
  /-- Nothing. -/
  | nothing
  /-- An analysis. -/
  | analysis (a : Analysis)
  /-- The kind of theme. -/
  | theme (t : Theme)
  /-- A tooltip. -/
  | tooltip (t : Tooltip)
  /-- What became of a message of thanks. -/
  | outcome (o : Outcome)
  /-- A link or a user id. -/
  | text (t : Text)
  /-- A counter. -/
  | counter (c : Counter)

namespace Reply

/-- The answer with a link if there is one. -/
def ofLink : Option Text → Reply
  | some t => text t
  | none => nothing

/-- The answer with an analysis if there is one. -/
def ofAnalysis : Option Analysis → Reply
  | some a => analysis a
  | none => nothing

end Reply

/-- What an event does. -/
def perform : Event → Work Reply
  | .opened b => do
    change (·.switchTo (some b))
    return .analysis (← session).result
  | .switched none => do
    change (·.switchTo none)
    return .nothing
  | .switched (some b) => do
    change (·.switchTo (some b))
    return .analysis (← session).result
  | .refreshed b => do
    change (·.refresh b.document)
    return .analysis (← session).result
  | .edited b edits => return .ofAnalysis (← edit b edits)
  | .selected => do
    change armReminder
    return .nothing
  | .themed name => do
    change (·.changeTheme name)
    return .theme (← session).theme
  | .hovered line => do
    match (← session).tooltip? line with
    | some t => return .tooltip t
    | none => return .nothing
  | .checked => do
    change checkKeyword
    return .nothing
  | .fired i => do
    match (← session).timers.firing? i with
    | some .reminder => remind
    | _ => pure ()
    return .nothing
  | .thanked b line => return .outcome (← sayThanks b.document line)
  | .saidMore => return .ofLink (← sayMoreLink)
  | .surveyed => return .ofLink (← surveyLink)
  | .countAsked => return .counter (← surveyCounter)
  | .userAsked => return .text (← userId)
  | .closed => do
    change stopReminder
    return .nothing

end Session

end Kudos
