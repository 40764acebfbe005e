import Kudos.Document
import Kudos.Pattern

/-!
# Usage of names

A line uses a name when it calls it (`name(` or `name.attr(`) or reads a member of it (`name.attr`).
The left edge of the name must be the edge of a word; on the right stands `(` or `.`, so a longer
word never counts as a use of a shorter name. Names are taken literally, whatever characters they
hold.
-/

namespace Kudos.Usage

open Text Pattern

/-- The member `name.attr`. -/
def memberOf (name : Text) : Pattern :=
  literal name ++ char '.' ++ many1 isWord

/-- The non-empty names without repetitions, in ascending order. -/
def candidates (names : List Text) : List Text :=
  (sortDistinct names).filter fun name => !name.isEmpty

/-- A call of one of the names or of a member of one. -/
def call (names : List Text) : Pattern :=
  wordEdge ++ firstOf ((candidates names).map fun name => memberOf name <|> literal name) ++
    char '('

/-- A member of one of the names. -/
def member (names : List Text) : Pattern :=
  wordEdge ++ firstOf ((candidates names).map memberOf)

/-- Whether a line calls one of the names or reads a member of one. -/
def usedOn (names : List Text) (line : Text) : Bool :=
  ((call names).search line).isSome || ((member names).search line).isSome

/-- The lines of a document that use one of the names, in ascending order. -/
def lines (d : Document) (names : List Text) : List Nat :=
  (d.lines.zipIdx.filter fun (line, _) => usedOn names line).map (·.2)

end Kudos.Usage
