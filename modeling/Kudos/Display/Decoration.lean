import Kudos.Text.Basic

/-!
# Decorations

A flagged line is decorated with an icon in the gutter, in the colors of a light or a dark theme.
-/

namespace Kudos

/-- A color theme, as far as the colors of the icons depend on it. -/
inductive Theme where
  /-- Dark text on a light ground. -/
  | light
  /-- Light text on a dark ground. -/
  | dark
  /-- A theme of another name, with the colors of the dark one. -/
  | other (name : String)
  deriving Repr, DecidableEq

namespace Theme

/-- The kind of an editor's theme by its name: light if the name says so, and dark if it does not or
there is no name. -/
def ofName (name : Text) : Theme :=
  if Text.occursIn "Light".toList name then light else dark

/-- The name of the kind. -/
def name : Theme → String
  | light => "light"
  | dark => "dark"
  | other name => name

end Theme

/-- An icon beside a line. -/
structure Decoration where
  /-- The line. -/
  line : Int
  /-- The column of the icon. -/
  column : Nat := 0
  /-- The theme whose colors it has. -/
  theme : Theme
  deriving Repr, DecidableEq

namespace Decoration

/-- The decorations of some lines: one for each distinct line, in ascending order. -/
def ofLines (lines : List Int) (theme : Theme) : List Decoration :=
  (Ascending.ofList (fun a b => decide (a ≤ b)) lines).map fun line => { line, theme }

end Decoration

end Kudos
