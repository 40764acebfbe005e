import Kudos.Fields
import Kudos.Limit
import Kudos.Number.Binary64
import Kudos.Text.Utf16
import Kudos.Text.Shown

/-!
# JSON values

The values that the program stores and sends. A JSON string is a list of UTF-16 units, as the
escapes of the format write it, so a stored string keeps a surrogate that is not part of a pair. An
object keeps its keys in the order in which they were first written.
-/

namespace Kudos

/-- A JSON string. -/
abbrev Units := List UInt16

/-- A JSON value. -/
inductive Json where
  /-- The absence of a value. -/
  | null
  /-- A truth value. -/
  | bool (b : Bool)
  /-- A number written without fraction and exponent. -/
  | int (n : Int)
  /-- Any other number. -/
  | real (x : Binary64)
  /-- A string. -/
  | string (s : Units)
  /-- An array. -/
  | array (items : List Json)
  /-- An object. -/
  | object (fields : List (Units × Json))
  deriving Repr, Inhabited

namespace Json

/-- A text as a JSON string. -/
def ofText (t : Text) : Json :=
  string (Utf16.encode t)

/-- The fields of an object; none for any other value. -/
def fields? : Json → Option (List (Units × Json))
  | object fields => some fields
  | _ => none

/-- Whether the value counts as present: not null, false, zero, or empty. -/
def isTruthy : Json → Bool
  | null => false
  | bool b => b
  | int n => n != 0
  | real x => !x.isZero
  | string s => !s.isEmpty
  | array items => !items.isEmpty
  | object fields => !fields.isEmpty

mutual

/-- The value in the notation in which collections are shown to people. -/
def toShown : Json → Shown
  | null => .plain "None".toList
  | bool b => .plain (if b then "True".toList else "False".toList)
  | int n => .plain (Text.ofInt n)
  | real x => .plain x.shortest
  | string s => .plain (Utf16.quote s)
  | array items => .list (listToShown items)
  | object fields => .fields (fieldsToShown fields)

/-- The items of an array, shown. -/
def listToShown : List Json → List Shown
  | [] => []
  | v :: rest => toShown v :: listToShown rest

/-- The fields of an object, shown. -/
def fieldsToShown : List (Units × Json) → List (Text × Shown)
  | [] => []
  | (k, v) :: rest => (Utf16.quote k, toShown v) :: fieldsToShown rest

end

mutual

/-- The first limit that a value goes beyond, in the order in which it is written; none if it goes
beyond none. -/
def overrun? (l : Limits) : Json → Option Overrun
  | int n => if l.excludes (Number.digitCount n) then some (.digits none) else none
  | array items =>
    match l.inside? with
    | none => some .levels
    | some l => listOverrun? l items
  | object fields =>
    match l.inside? with
    | none => some .levels
    | some l => fieldsOverrun? l fields
  | _ => none

/-- The first limit that the items of an array go beyond. -/
def listOverrun? (l : Limits) : List Json → Option Overrun
  | [] => none
  | v :: rest => (overrun? l v).or (listOverrun? l rest)

/-- The first limit that the fields of an object go beyond. -/
def fieldsOverrun? (l : Limits) : List (Units × Json) → Option Overrun
  | [] => none
  | (_, v) :: rest => (overrun? l v).or (fieldsOverrun? l rest)

end

/-- The value as a text for people: a string as it is, anything else as it is shown. -/
def display : Json → Text
  | string s => Utf16.decode s
  | v => v.toShown.text

end Json

end Kudos
