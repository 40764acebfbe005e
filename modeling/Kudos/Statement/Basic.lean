import Kudos.Document

/-!
# Statements

An import statement as it was recognized in a document: where it stands, the module it names, and
the names it binds.
-/

namespace Kudos

/-- An import statement in a document. -/
structure Statement where
  /-- The line on which it starts. -/
  line : Nat
  /-- The number of characters before it. -/
  offset : Nat
  /-- The module that it names; empty when it names none apart from what it binds. -/
  source : Text
  /-- The names it binds, in written order. -/
  names : List Text
  /-- Whether the module is a library and not a file of the same project. -/
  isExternal : Bool
  /-- The statement as written. -/
  text : Text
  deriving Repr, DecidableEq

end Kudos
