import Kudos.Display.Styles
import Kudos.Record.Datum
import Kudos.Record.Failure
import Kudos.Toml.Basic

/-!
# The host

What the program finds around it and what it leaves behind: files, the time, random numbers, fresh
ids, the records that were sent, what was shown to the user, and the log of warnings. Every action
on the host is a function from one state of it to the next, so the effect of a run is the state at
its end.

An action may fail with a `Fault`; the host then keeps what had been done before.
-/

namespace Kudos

/-- Why an action fails. -/
inductive Fault where
  /-- A file does not hold UTF-8. -/
  | badEncoding
  /-- A section of the configuration is not a table. -/
  | sectionNotTable
  /-- A setting is to be stored in something that is not a table. -/
  | settingNotStorable
  /-- The configuration defeats its reader or its writer. -/
  | configuration (flaw : Toml.Flaw)
  /-- A number is too large for the double precision format. -/
  | numberTooLarge
  /-- A file operation failed. -/
  | file (cause : FileError)
  /-- A value in a file goes beyond a limit. -/
  | beyond (limit : Overrun)
  /-- A line number lies outside the document. -/
  | lineOutside (line : Int) (count : Nat)
  /-- A message closes a style that is not open, or that cannot be closed. -/
  | badMarkup
  /-- The input ended at a question. -/
  | inputEnded
  deriving Repr, DecidableEq

namespace Fault

/-- The wording of a line number outside a document. One that is too long cannot be named. -/
def lineOutsideMessage (line : Int) (count : Nat) : Text :=
  match Number.intText line with
  | .ok t => "Line ".toList ++ t ++ " is outside 1..".toList ++ Text.ofNat count
  | .error limit => limit.message

end Fault

/-- What is logged as a warning. -/
inductive Warning where
  /-- The state file cannot be read. -/
  | stateUnreadable
  /-- A value cannot be stored in the state file. -/
  | stateNotStored (key : Text)
  /-- The configuration cannot be read. -/
  | configUnreadable
  /-- The configuration cannot be written. -/
  | configNotStored
  /-- A record was not delivered. -/
  | recordLost (collection : Text) (cause : Failure)
  /-- The callback of a timer failed. -/
  | callbackFailed (cause : Failure)
  /-- A watched file cannot be read. -/
  | documentUnreadable
  deriving Repr, DecidableEq

namespace Warning

/-- The wording of a warning. -/
def message : Warning → Text
  | stateUnreadable => "Ignoring unreadable state file".toList
  | stateNotStored key => "Could not persist '".toList ++ key ++ ['\'']
  | configUnreadable => "Could not read the configuration".toList
  | configNotStored => "Could not write the configuration".toList
  | recordLost collection cause =>
    "Error saving record to '".toList ++ collection ++ "': ".toList ++ cause.message
  | callbackFailed cause => "Timer callback failed: ".toList ++ cause.message
  | documentUnreadable => "Could not re-read the watched file".toList

end Warning

/-- A random number that was drawn, with its bounds. -/
structure Draw where
  /-- The least number that could be drawn. -/
  low : Int
  /-- The greatest number that could be drawn. -/
  high : Int
  /-- The number. -/
  value : Int
  deriving Repr, DecidableEq

/-- A record that was delivered to a collection. -/
structure Delivery where
  /-- The name of the collection. -/
  collection : Text
  /-- The record. -/
  record : Record
  deriving Repr

/-- A request that was sent to a server. -/
structure Post where
  /-- The address. -/
  url : Text
  /-- The seconds to wait for an answer. -/
  timeout : Number
  /-- The JSON text that was sent. -/
  body : Text
  deriving Repr

/-- A message to the user. -/
inductive Notice where
  /-- A message that is only shown, perhaps for some seconds. -/
  | shown (message : Text) (dismissAfter : Option Number)
  /-- A message that offers an action. -/
  | asked (message : Text) (action : Text)
  deriving Repr, DecidableEq

/-- The state of the host. -/
structure Host where
  /-- The files. -/
  files : FileTree := {}
  /-- The number of calls inside of each other that the stack has room for. Each level of collections
  takes one or more of them. -/
  room : Nat := 980
  /-- What the console makes of styles. -/
  styles : Markup.Styles := {}
  /-- The time, which stands still. -/
  now : Timestamp := ⟨⟨2024, 1, 2⟩, ⟨3, 4, 5, 678901⟩, none⟩
  /-- The numbers from which the next random numbers are made. -/
  chances : List Int := []
  /-- The random numbers that were drawn, the last one first. -/
  draws : List Draw := []
  /-- The number of the last id that was given out. -/
  lastId : Nat := 0
  /-- The number of deliveries to memory that were tried. -/
  attempts : Nat := 0
  /-- The records that were delivered to memory, the last one first. -/
  deliveries : List Delivery := []
  /-- The requests that were sent, the last one first. -/
  posts : List Post := []
  /-- The links that were opened, the last one first. -/
  opened : List Text := []
  /-- The messages to the user that were recorded, the last one first. -/
  notices : List Notice := []
  /-- The text on the console. -/
  output : Text := []
  /-- The lines that the user has typed and that have not been read. -/
  input : List Text := []
  /-- The warnings, the last one first. -/
  warnings : List Warning := []
  deriving Inhabited

/-- An action on a state that may fail. -/
abbrev ActionOn (σ α : Type) := ExceptT Fault (StateM σ) α

/-- An action on the host. -/
abbrev Action (α : Type) := ActionOn Host α

namespace Host

/-- The limits of what the program reads and writes. -/
def limits (h : Host) : Limits :=
  .ofRoom h.room

/-- The host with one more warning. -/
def warn (h : Host) (w : Warning) : Host :=
  { h with warnings := w :: h.warnings }

/-- The host with more text on the console. -/
def print (h : Host) (t : Text) : Host :=
  { h with output := h.output ++ t }

/-- Draws a number between two bounds. The next chance is taken modulo the number of possible
results; without one the least number is drawn. -/
def draw (h : Host) (low high : Int) : Int × Host :=
  let value := low + (h.chances.headD 0).emod (high - low + 1)
  (value, { h with chances := h.chances.drop 1, draws := ⟨low, high, value⟩ :: h.draws })

/-- A fresh id of 32 hexadecimal digits. -/
def freshId (h : Host) : Text × Host :=
  (Text.hex 32 (h.lastId + 1), { h with lastId := h.lastId + 1 })

end Host

end Kudos
