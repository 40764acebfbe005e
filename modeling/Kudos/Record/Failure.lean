import Kudos.Files.Tree
import Kudos.Limit
import Kudos.Text.Quoted

/-!
# Failures of callbacks and deliveries

What can go wrong when a record is handed to its destination, or when the callback of a timer runs.
Those that come from the outside world or from the data are expected and only logged; the others are
faults of the program.
-/

namespace Kudos

/-- The cause of a failure, with the text that came with it. -/
inductive Failure where
  /-- The operating system refused. -/
  | system (text : Text)
  /-- A file operation failed. -/
  | file (cause : FileError)
  /-- The server cannot be reached. -/
  | unreachable (reason : Text)
  /-- The server's answer makes no sense. -/
  | protocol (text : Text)
  /-- The server's answer starts with a line that is no status. -/
  | badStatus (line : Text)
  /-- A value is out of its range. -/
  | badValue (text : Text)
  /-- A value is of the wrong kind. -/
  | badType (text : Text)
  /-- A value goes beyond a limit. -/
  | beyond (limit : Overrun)
  /-- A key is missing. -/
  | missingKey (key : Text)
  /-- A fault of the program. -/
  | internal (text : Text)
  deriving Repr, DecidableEq

namespace FileError

/-- The wording of a failed file operation. -/
def message : FileError → Text
  | .notFound => "No such file or directory".toList
  | .isDirectory => "Is a directory".toList
  | .notDirectory => "Not a directory".toList
  | .exists => "File exists".toList

end FileError

namespace Failure

/-- Whether a delivery may fail in this way without a fault in the program. An integer that is too
long counts as a bad value, but running out of stack is always a fault. -/
def isExpected : Failure → Bool
  | missingKey _ => false
  | beyond .levels => false
  | internal _ => false
  | _ => true

/-- The wording of a failure. -/
def message : Failure → Text
  | system text => text
  | file cause => cause.message
  | unreachable reason => "<urlopen error ".toList ++ reason ++ ['>']
  | protocol text => text
  | badStatus line => if line.isEmpty then Text.quote [] else line
  | badValue text => text
  | badType text => text
  | beyond limit => limit.message
  | missingKey key => Text.quote key
  | internal text => text

end Failure

end Kudos
