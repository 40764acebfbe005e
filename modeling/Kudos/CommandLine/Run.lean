import Kudos.CommandLine.Command
import Kudos.Config
import Kudos.Display.Listing
import Kudos.Display.Rule
import Kudos.Watch

/-!
# Running commands

What each command does to the host, and how it ends. A command that works on a session reads the
settings first; one that only reads a file does not.
-/

namespace Kudos

/-- How a run of the program ends. -/
inductive Ending where
  /-- As it should. -/
  | success
  /-- With a message that the user's wish could not be met. -/
  | failure
  /-- With words that are refused. -/
  | refused (reason : Refusal)
  /-- By a fault. -/
  | fault (cause : Fault)
  deriving Repr, DecidableEq

namespace Ending

/-- The exit code of the program. -/
def exitCode : Ending → Nat
  | success => 0
  | failure => 1
  | refused _ => 2
  | fault _ => 1

end Ending

namespace Command

open Text

/-- The version of the program. -/
def versionText : Text :=
  "Gratitude CLI v0.1.0".toList

/-- The usage of the program. -/
def usageText : Text :=
  "Usage: gratitude [OPTIONS] scan|hover|statements|thanks|watch|config [ARGS]...".toList

/-- Prints a line as it is. -/
def say (t : Text) : Action Unit :=
  modify (·.print (t ++ ['\n']))

/-- Prints a line with markup. -/
def sayMarked (t : Text) : Action Unit :=
  Notifier.print t

/-- A session with the settings of a home directory. -/
def newSession (home : Home) (notifier : Notifier) : Action Session := do
  let settings ← Config.settings home
  let sink := Sink.ofSetting home.records settings.endpoint
  return Session.start settings notifier sink ⟨home.state, some sink⟩

/-- An action on a session and its host as one on the host. The session is gone afterwards. -/
def within {α : Type} (s : Session) (w : Work α) : Action α :=
  ExceptT.mk fun h =>
    let (r, d) := w.run ⟨s, h⟩
    (r, d.host)

/-- A document as the only one of an editor. -/
def bufferOf (d : Document) : Buffer :=
  ⟨0, d⟩

/-- A text with its name as a field of an object. -/
def textField (key : String) (t : Text) : Units × Json :=
  (Utf16.encode key.toList, .ofText t)

/-- A list of numbers as JSON. -/
def numbersJson (ns : List Nat) : Json :=
  .array (ns.map fun n => .int (Int.ofNat n))

/-- The analysis of a document as JSON. -/
def scanJson (d : Document) (a : Analysis) : Json :=
  let key (t : String) := Utf16.encode t.toList
  .object [
    textField "file" (d.path.getD []),
    textField "language" d.language.toList,
    (key "line_numbers", numbersJson a.lines),
    (key "has_import", .bool a.hasImport),
    (key "bindings", .array (a.bindings.map fun b => .object [
      textField "name" b.name, textField "module" b.source, (key "line", .int b.line)]))]

/-- The summary of a scan, with markup. -/
def summary (d : Document) (a : Analysis) : Text :=
  if a.hasImport then
    let names := join [',', ' '] a.boundNames
    "[green]✓[/green] ".toList ++ ofNat a.lines.length ++ " flagged line(s), ".toList ++
      ofNat a.statementLines.length ++ " import statement(s). Names: ".toList ++
      if names.isEmpty then ['-'] else names
  else "[dim]No library imports found (".toList ++ d.language.toList ++ ").[/dim]".toList

/-- Prints the listing of a document. -/
def list (d : Document) (decorations : List Decoration) (onlyDecorated : Bool) : Action Unit :=
  modify (·.print (Listing.print Notifier.consoleWidth d decorations onlyDecorated))

/-- Prints the flagged lines of a document. -/
def runScan (home : Home) (d : Document) : ScanStyle → Action Ending
  | .json => do
    say ((scanJson d (Analysis.ofDocument d)).write .indented)
    return .success
  | .linesOnly => do
    modify (·.print ((Analysis.ofDocument d).lines.flatMap fun n => ofNat n ++ ['\n']))
    return .success
  | .listing onlyFlagged => do
    let s := (← newSession home (.console none)).refresh d
    list d s.decorations onlyFlagged
    sayMarked (summary d s.result)
    return .success

/-- A line number in front of what is said about the line. -/
def aboutLine (line : Int) (t : Text) : Text :=
  "Line ".toList ++ ofInt line ++ t

/-- Prints the tooltip of a line. -/
def runHover (home : Home) (d : Document) (line : Int) : Action Ending := do
  let s := (← newSession home (.console none)).refresh d
  match s.tooltip? (line - 1) with
  | none => say (aboutLine line ": no tooltip".toList)
  | some t => say (aboutLine line (": ".toList ++ t.message))
  return .success

/-- Prints the import statements of a document. -/
def runStatements (d : Document) : Action Ending := do
  let found := Detector.statements d
  say (ofNat found.length ++ " import statement(s)".toList)
  modify (·.print (found.flatMap fun t => [' ', ' '] ++ trim t ++ ['\n']))
  return .success

/-- Prints a link and perhaps opens it. -/
def follow (openLinks : Bool) : Option Text → Action Unit
  | none => return
  | some link => do
    say link
    if openLinks then modify fun h => { h with opened := link :: h.opened }

/-- What a fault in saying thanks amounts to: values that make no sense refuse the command line. -/
def refusalOf? : Fault → Option Refusal
  | .lineOutside line count => some (.lineOutside line count)
  | .badEncoding => some .badState
  | .beyond (.digits _) => some .longNumber
  | _ => none

/-- Says thanks for a line. -/
def runThanks (home : Home) (d : Document) (line : Int) (acceptAll openLinks : Bool) :
    Action Ending := do
  let notifier := Notifier.console (if acceptAll then some true else none)
  let s := (← newSession home notifier).switchTo (some (bufferOf d))
  if !s.hasImport then
    sayMarked "[red]✗[/red] No library imports found in this file.".toList
    return .failure
  else if !s.isFlagged (line - 1) then
    sayMarked ("[red]✗[/red] ".toList ++
      aboutLine line " does not use an imported library.".toList)
    return .failure
  else
    match ← ExceptT.lift (within s (Session.sayThanks d line)).run with
    | .error fault =>
      match refusalOf? fault with
      | some reason => return .refused reason
      | none => throw fault
    | .ok outcome =>
      follow openLinks outcome.sayMoreLink
      follow openLinks outcome.surveyLink
      return .success

/-- A setting beside its name. -/
def settingLine (name : String) (t : Text) : Text :=
  [' ', ' '] ++ name.toList ++ List.replicate (12 - name.length) ' ' ++ t

/-- A number of seconds in at most six digits. -/
def secondsText (n : Number) : Text :=
  (n.toBinary64?.getD .nan).general ++ ['s']

/-- A theme by its name, with its kind. -/
def themeText (name : Text) : Text :=
  name ++ " (".toList ++ (Theme.ofName name).name.toList ++ [')']

/-- Prints the settings. -/
def runShowConfig (home : Home) : Action Ending := do
  let s ← Config.settings home
  say (settingLine "Config" home.config.text)
  say (settingLine "Records"
    (if s.endpoint.isEmpty then "(local file) ".toList ++ home.records.text else s.endpoint))
  say (settingLine "Theme" (themeText s.colorTheme))
  say (settingLine "Reminder" ("after ".toList ++ secondsText s.inactivity ++ " idle".toList))
  say (settingLine "Dismiss" ("after ".toList ++ secondsText s.dismiss))
  return .success

/-- Tells whether a setting was saved. -/
def confirm (saved : Bool) (t : Text) : Action Ending := do
  if saved then
    say ("✓ ".toList ++ t)
    return .success
  else return .failure

/-- Saves an address for records. -/
def runSetEndpoint (home : Home) (endpoint : Text) : Action Ending := do
  confirm (← Config.saveEndpoint home endpoint) ("Records endpoint set to: ".toList ++
    if endpoint.isEmpty then "local file".toList else endpoint)

/-- Saves a theme. -/
def runSetTheme (home : Home) (name : Text) : Action Ending := do
  confirm (← Config.saveTheme home name) ("Color theme set to: ".toList ++ themeText name)

/-- Prints what a watcher shows of a document: a rule with the name of the file, the flagged lines
and their number. -/
def showWatched (w : Watch) : Action Unit := do
  match Rule.print? (← get).styles Notifier.consoleWidth w.path.name with
  | none => throw .badMarkup
  | some rule => modify (·.print rule)
  let s := w.desk.session
  list w.buffer.document s.decorations true
  sayMarked ("[dim]".toList ++ ofNat s.result.lines.length ++ " flagged line(s)[/dim]".toList)

/-- Starts to watch a file. The last line of the greeting closes a style that is not open, so the
command does not get beyond it. -/
def runWatch (home : Home) (path : Path) (language : Option String) (interval : Binary64) :
    Action Ending := do
  let s ← newSession home (.console none)
  match Watch.start? ⟨s, ← get⟩ path language (.real interval) with
  | .error cause => throw (.file cause)
  | .ok w =>
    showWatched w
    sayMarked ("\n[bold green]👀 Watching[/bold green] [cyan]".toList ++
      w.path.text ++ "[/cyan] for changes...".toList)
    sayMarked ("[dim]  Language:  ".toList ++ w.buffer.document.language.toList)
    sayMarked ("  Debounce:  ".toList ++ interval.shortest ++ ['s'])
    sayMarked "  Press Ctrl+C to stop[/dim]\n".toList
    return .success

/-- Does what the user asks for. -/
def perform (home : Home) : Command → Action Ending
  | version => do
    say versionText
    return .success
  | help => do
    say usageText
    return .success
  | scan d style => runScan home d style
  | hover d line => runHover home d line
  | statements d => runStatements d
  | thanks d line acceptAll openLinks => runThanks home d line acceptAll openLinks
  | showConfig => runShowConfig home
  | setEndpoint endpoint => runSetEndpoint home endpoint
  | setTheme name => runSetTheme home name
  | watch path language interval => runWatch home path language interval

/-- Does what the words of a command line ask for. -/
def run (home : Home) (words : List Text) (h : Host) : Ending × Host :=
  match ofWords h.files words with
  | .error reason => (.refused reason, h)
  | .ok command =>
    match (command.perform home).run h with
    | (.ok ending, h) => (ending, h)
    | (.error cause, h) => (.fault cause, h)

end Command

end Kudos
