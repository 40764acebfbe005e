import Kudos.Display.Markup

/-!
# Rules

A line across the console with a title in its middle.
-/

namespace Kudos.Rule

open Text

/-- The character that a rule is drawn with. -/
def stroke : Char :=
  '─'

/-- A rule of some cells with a title between blanks, and its newline. -/
def titled (width : Nat) (title : Text) : Text :=
  let side := (width - cells title) / 2
  List.replicate (side - 1) stroke ++ ' ' :: title ++
    ' ' :: List.replicate (width - side - cells title - 1) stroke ++ ['\n']

/-- A rule of some cells with a title that has markup, and its newline; none if the title cannot be
shown. Without a title nothing breaks the line. -/
def print? (s : Markup.Styles) (width : Nat) (title : Text) : Option Text :=
  if title.isEmpty then some (List.replicate width stroke ++ ['\n'])
  else
    (Markup.plain? s title).map fun plain =>
      titled width (Wrap.expandTabs 0 (plain.map fun c => if c = '\n' then ' ' else c))

end Kudos.Rule
