import Kudos.Number.Binary64

/-!
# Settings

The settings of a session and their defaults.
-/

namespace Kudos

/-- The settings of a session. -/
structure Settings where
  /-- The address records are sent to; empty for the local file. -/
  endpoint : Text := []
  /-- The name of the color theme. -/
  colorTheme : Text := "Default Dark Modern".toList
  /-- The seconds without an edit before the reminder. -/
  inactivity : Number := .real (Binary64.ofRatio false 1800 1)
  /-- The seconds after which the reminder goes away. -/
  dismiss : Number := .real (Binary64.ofRatio false 10 1)
  deriving Repr, DecidableEq, Inhabited

end Kudos
