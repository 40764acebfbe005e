import Kudos.Diff
import Kudos.Language
import Kudos.Session

/-!
# Watching a file

A watcher turns changes of one file into edits of a session. An event for the file schedules a
reload; further events before the reload put it off. A reload reads the file, finds the difference
to the document it holds, and reports it to the session as edits; if there is none, nothing happens
at all. Each reload makes a new document, which takes the place of the old one in the session if
that was active.

What can happen meanwhile is the type `Watch.Event`, and `Watch.perform` says what it does.
-/

namespace Kudos

/-- The state of a watcher, with its session. -/
structure Watch where
  /-- The path of the file from the root. -/
  path : Path
  /-- The document as it was last read. -/
  buffer : Buffer
  /-- The pending reload. -/
  debounce : TimerSlot Purpose
  /-- The session and its host. -/
  desk : Desk

/-- An action on a watcher. -/
abbrev WatchWork (α : Type) := ActionOn Watch α

/-- A change in the file system. -/
structure FileEvent where
  /-- The path that changed. -/
  source : Text
  /-- The path that it was moved to; empty if it was not moved. -/
  target : Text
  /-- Whether the path is a directory. -/
  isDirectory : Bool
  deriving Repr, DecidableEq

namespace Watch

/-- An action on the session and its host. -/
def onDesk {α : Type} (a : Work α) : WatchWork α :=
  ExceptT.mk fun w =>
    let (r, desk) := a.run w.desk
    (r, { w with desk })

/-- Changes the session. -/
def onSession (w : Watch) (f : Session → Session) : Watch :=
  { w with desk := { w.desk with session := f w.desk.session } }

/-- Opens a file for watching. -/
def start? (desk : Desk) (path : Path) (language : Option String) (debounce : Number) :
    Except FileError Watch := do
  let path := desk.host.files.resolve path
  let document ← Document.open? desk.host.files path language
  let buffer : Buffer := ⟨0, document⟩
  return {
    path, buffer
    debounce := { delay := debounce, purpose := .reload }
    desk := { desk with session := desk.session.switchTo (some buffer) } }

/-- Whether a path of an event leads to the watched file. -/
def concerns (w : Watch) (path : Text) : Bool :=
  !path.isEmpty && w.desk.host.files.resolve (Path.ofText path) = w.path

/-- Schedules a reload if an event concerns the watched file. -/
def dispatch (w : Watch) (e : FileEvent) : Watch :=
  if !e.isDirectory && (w.concerns e.source || w.concerns e.target) then
    let (debounce, timers) := w.debounce.schedule w.desk.session.timers
    { w with debounce }.onSession ({ · with timers })
  else w

/-- Stops the pending reload. -/
def stop (w : Watch) : Watch :=
  let (debounce, timers) := w.debounce.stop w.desk.session.timers
  { w with debounce }.onSession ({ · with timers })

/-- The watcher with a new document in place of the one it holds. -/
def replace (w : Watch) (b : Buffer) : Watch :=
  { w with buffer := b }.onSession fun s =>
    if s.isActive w.buffer then { s with active := some b } else s

/-- Reads the file again. The result is the analysis of its document, if there was a change and the
document is the active one. -/
def reload : WatchWork (Option Analysis) := do
  let w ← get
  let old := w.buffer
  match Document.open? w.desk.host.files w.path (some old.document.language) with
  | .error _ =>
    set { w with desk := { w.desk with host := w.desk.host.warn .documentUnreadable } }
    return none
  | .ok document =>
    let edits := Diff.edits old.document.text document.text
    if edits.isEmpty then return none
    else
      let buffer : Buffer := ⟨old.id + 1, document⟩
      set (w.replace buffer)
      onDesk (Session.edit buffer edits)

/-- Lets the delay of a timer be over. The result is the analysis of a reload. -/
def fire (i : Nat) : WatchWork (Option Analysis) := do
  match (← get).desk.session.timers.firing? i with
  | some .reminder =>
    onDesk Session.remind
    return none
  | some .reload => reload
  | none => return none

/-- What can happen while a file is watched. -/
inductive Event where
  /-- A file is written, with the directories on the way to it. -/
  | written (path : Path) (bytes : List UInt8)
  /-- A file is deleted. -/
  | deleted (path : Path)
  /-- A change in the file system is reported. -/
  | reported (e : FileEvent)
  /-- The watched file is to be read again. -/
  | reloaded
  /-- The delay of a timer is over. -/
  | fired (timer : Nat)
  /-- The pending reload is not wanted any more. -/
  | stopped
  /-- The theme changed to one of another name. -/
  | themed (name : Text)
  /-- The editor shows no document any more. -/
  | detached
  deriving Repr, DecidableEq

/-- Changes the files. A change that fails leaves them as they are. -/
def onFiles (w : Watch) (f : FileTree → Except FileError FileTree) : Watch :=
  let host := w.desk.host
  { w with desk := { w.desk with
      host := { host with files := (f host.files).toOption.getD host.files } } }

/-- What an event does. The result is the analysis of a reload. -/
def perform : Event → WatchWork (Option Analysis)
  | .written path bytes => do
    modify (·.onFiles (·.store path bytes))
    return none
  | .deleted path => do
    modify (·.onFiles (·.delete path))
    return none
  | .reported e => do
    modify (·.dispatch e)
    return none
  | .reloaded => reload
  | .fired i => fire i
  | .stopped => do
    modify stop
    return none
  | .themed name => do
    modify (·.onSession (·.changeTheme name))
    return none
  | .detached => do
    modify (·.onSession (·.switchTo none))
    return none

end Watch

end Kudos
