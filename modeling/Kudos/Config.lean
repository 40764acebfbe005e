import Kudos.Files.Home
import Kudos.Host
import Kudos.Number.Reader
import Kudos.Settings
import Kudos.Text.LineBreak
import Kudos.Text.Utf8
import Kudos.Toml.Printer
import Kudos.Toml.Reader

/-!
# The configuration

The settings kept in the configuration file of the home directory. A missing file means the
defaults, and so does one that cannot be read, with a warning. Saving a setting reads the file,
changes one section and writes the file again, so other sections stay as they are, though not their
layout and comments.

A section that is not a table is a fault, not a default, and so is a value that goes beyond a limit.
-/

namespace Kudos.Config

open Toml (Table)

/-- The section of the address for records. -/
def recordsSection : Text := "records".toList

/-- The section of the theme. -/
def displaySection : Text := "ui".toList

/-- The section of the delays. -/
def timersSection : Text := "timers".toList

/-- The key of the address for records. -/
def endpointKey : Text := "endpoint".toList

/-- The key of the theme. -/
def themeKey : Text := "color_theme".toList

/-- The key of the delay before the reminder. -/
def inactivityKey : Text := "inactivity_seconds".toList

/-- The key of the delay after which the reminder goes away. -/
def dismissKey : Text := "dismiss_seconds".toList

/-- The configuration of a home directory. -/
def load (home : Home) : Action Table := do
  let h ← get
  if !h.files.contains home.config then return []
  match h.files.read home.config with
  | .error _ =>
    set (h.warn .configUnreadable)
    return []
  | .ok bytes =>
    match Utf8.decode? bytes with
    | none => throw .badEncoding
    | some text =>
      match Toml.ofText h.room (Text.joinLineBreaks text) with
      | .ok fields => return fields
      | .error .malformed =>
        set (h.warn .configUnreadable)
        return []
      | .error flaw => throw (.configuration flaw)

/-- A section of a configuration; an absent one is empty. -/
def section? (fields : Table) (name : Text) : Except Fault Table :=
  match Fields.get? fields name with
  | none => .ok []
  | some (.table fields) => .ok fields
  | some _ => .error .sectionNotTable

/-- The text under a key of a section. Other values than strings are shown. -/
def textOr (l : Limits) (default : Text) (fields : Table) (key : Text) : Except Fault Text :=
  match Fields.get? fields key with
  | none => .ok default
  | some v => (v.display l).mapError .beyond

/-- The number under a key of a section. A truth value counts as one or zero, and a string as the
number it denotes; anything else counts as absent. -/
def numberOr (default : Number) (fields : Table) (key : Text) : Except Fault Number :=
  match Fields.get? fields key with
  | some (.int n) =>
    match Binary64.ofInt? n with
    | some x => .ok (.real x)
    | none => .error .numberTooLarge
  | some (.real x) => .ok (.real x)
  | some (.bool b) => .ok (.real (Binary64.ofRatio false (if b then 1 else 0) 1))
  | some (.string t) => .ok (((Number.ofText? t).map .real).getD default)
  | _ => .ok default

/-- The settings of a configuration. -/
def settingsOf (l : Limits) (fields : Table) : Except Fault Settings := do
  let standard : Settings := {}
  let endpoint ← textOr l standard.endpoint (← section? fields recordsSection) endpointKey
  let colorTheme ← textOr l standard.colorTheme (← section? fields displaySection) themeKey
  let timers ← section? fields timersSection
  return {
    endpoint, colorTheme
    inactivity := ← numberOr standard.inactivity timers inactivityKey
    dismiss := ← numberOr standard.dismiss timers dismissKey }

/-- The settings of a home directory. -/
def settings (home : Home) : Action Settings := do
  let fields ← load home
  match settingsOf (← get).limits fields with
  | .ok s => return s
  | .error fault => throw fault

/-- Writes the configuration of a home directory. The result says whether it could be written. The
old file is gone before the new text is made. -/
def save (home : Home) (fields : Table) : Action Bool := do
  let h ← get
  match h.files.makeDirectories home.directory with
  | .error cause => throw (.file cause)
  | .ok files =>
    modify ({ · with files })
    match files.write home.config [] with
    | .error _ =>
      modify (·.warn .configNotStored)
      return false
    | .ok emptied =>
      match Toml.toText h.room fields with
      | .error flaw =>
        modify ({ · with files := emptied })
        throw (.configuration flaw)
      | .ok text =>
        modify fun h =>
          { h with files := (files.write home.config (Utf8.encode text)).toOption.getD emptied }
        return true

/-- Saves the address for records. An empty one removes the section. -/
def saveEndpoint (home : Home) (endpoint : Text) : Action Bool := do
  let fields ← load home
  save home <|
    if endpoint.isEmpty then Fields.erase recordsSection fields
    else Fields.set recordsSection (.table [(endpointKey, .string endpoint)]) fields

/-- Saves the name of the color theme. -/
def saveTheme (home : Home) (name : Text) : Action Bool := do
  let fields ← load home
  match (Fields.get? fields displaySection).getD (.table []) with
  | .table display =>
    let display := Fields.set themeKey (.string name) display
    save home (Fields.set displaySection (.table display) fields)
  | _ => throw .settingNotStorable

end Kudos.Config
