import Kudos.Pattern

/-!
# Name lists

The separators of a list of imported names: commas between the entries, and `as` between a name and
its alias.
-/

namespace Kudos.NameList

open Text Pattern

/-- A comma with the blanks around it. -/
def comma : Pattern :=
  many isBlank ++ char ',' ++ many isBlank

/-- The keyword `as` between blanks. -/
def asName : Pattern :=
  many1 isBlank ++ word "as" ++ many1 isBlank

/-- The entries of a name list, without the blanks around them. -/
def entries (t : Text) : List Text :=
  (comma.pieces t).map trim

/-- The name and the aliases of an entry: the pieces between its `as` keywords. -/
def aliasPieces (entry : Text) : List Text :=
  asName.pieces entry

end Kudos.NameList
