import Kudos.Files.Path

/-!
# The home directory

The directory in which the program keeps its files.
-/

namespace Kudos

/-- A home directory. -/
structure Home where
  /-- The directory. -/
  directory : Path
  deriving Repr, DecidableEq, Inhabited

namespace Home

/-- The file of the settings. -/
def config (h : Home) : Path := h.directory.child "config.toml"

/-- The file of the user id and the survey counter. -/
def state (h : Home) : Path := h.directory.child "state.json"

/-- The file of the records that are not sent to a server. -/
def records (h : Home) : Path := h.directory.child "records.jsonl"

end Home

end Kudos
