import Kudos.Text.Basic

/-!
# Styles

What a console makes of the tags in a message is its own affair, but for two things that decide
whether the message can be shown at all: which names are names of one style, so that one closes what
the other opened, and which parameters of an action can be evaluated.
-/

namespace Kudos.Markup

/-- A tag that opens a style. The name of an action starts with `@`. -/
structure Tag where
  /-- The name. -/
  name : Text
  /-- What stands behind the equals sign; empty if nothing does. -/
  parameters : Text := []
  deriving Repr, DecidableEq

/-- What a console makes of styles. One that knows none of them tells their names apart without
regard to case, and takes all parameters. -/
structure Styles where
  /-- The name by which the style of a name is known. -/
  known : Text → Text := fun name => (Text.trim name).map Char.toLower
  /-- Whether the parameters of an action can be evaluated. -/
  evaluates : Text → Bool := fun _ => true

namespace Styles

/-- A tag under the name by which its style is known. -/
def resolve (s : Styles) (tag : Tag) : Tag :=
  { tag with name := s.known tag.name }

/-- Whether the style of a tag can be closed: the parameters of an action are evaluated then. -/
def closes (s : Styles) (tag : Tag) : Bool :=
  tag.name.head? != some '@' || tag.parameters.isEmpty || s.evaluates tag.parameters

end Styles

end Kudos.Markup
