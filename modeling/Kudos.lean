import Kudos.Main
import Kudos.Proofs.Pattern.Reading
import Kudos.Proofs.Pattern.Found
import Kudos.Proofs.Usage
import Kudos.Proofs.Text.Basic
import Kudos.Proofs.Document.Lines
import Kudos.Proofs.Pattern.Separator
import Kudos.Proofs.Statement.ScriptLine
import Kudos.Proofs.Statement.ScriptImport
import Kudos.Proofs.Statement.PythonDocument
import Kudos.Proofs.Statement.ScriptDocument
import Kudos.Proofs.Statement.ScriptHidden
import Kudos.Proofs.Notifier
import Kudos.Proofs.Session.Step
import Kudos.Proofs.Timer
import Kudos.Proofs.Session.Coherence
import Kudos.Proofs.Session.Reminder
import Kudos.Proofs.Diff
import Kudos.Proofs.Watch.Step
import Kudos.Proofs.Watch.Coherence
import Kudos.Proofs.Files.Tree
import Kudos.Proofs.Watch.Saves
import Kudos.Proofs.Json.Numeral
import Kudos.Proofs.Json.Real
import Kudos.Proofs.Analysis
import Kudos.Proofs.CommandLine.Agreement
import Kudos.Proofs.Identity.Calls
import Kudos.Proofs.Session.Survey
import Kudos.Proofs.Pattern.Junction
import Kudos.Proofs.Statement.PythonJoined
import Kudos.Proofs.Statement.Names
import Kudos.Proofs.Analysis.WellFormed
import Kudos.Proofs.Config.Settings
import Kudos.Proofs.Toml.Strings
import Kudos.Proofs.Toml.Values
import Kudos.Proofs.Toml.Lines
import Kudos.Proofs.Toml.Entries
import Kudos.Proofs.Toml.RoundTrip
import Kudos.Proofs.Config.Saved
import Kudos.Proofs.Config.Changes
import Kudos.Proofs.Link.Percent
import Kudos.Proofs.Link.Form
import Kudos.Proofs.Session.NewImports
import Kudos.Proofs.Text.Lines
import Kudos.Proofs.Json.Printable
import Kudos.Proofs.Record.Lines
import Kudos.Proofs.Statement.ScriptFirst
import Kudos.Proofs.Statement.ScriptFrom
import Kudos.Proofs.Usage.Identifier
import Kudos.Proofs.Statement.PythonDotted
import Kudos.Proofs.Document.Offsets
import Kudos.Proofs.Detector
import Kudos.Proofs.Diff.Replacements
import Kudos.Proofs.Statement.PythonStar
import Kudos.Proofs.Timer.Runs
import Kudos.Proofs.Statement.PythonReturns
import Kudos.Proofs.Session.Sinks
import Kudos.Proofs.Display.Wrap
import Kudos.Proofs.Display.Markup
import Kudos.Proofs.CommandLine.Scan
