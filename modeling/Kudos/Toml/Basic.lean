import Kudos.Fields
import Kudos.Limit
import Kudos.Number.Binary64
import Kudos.Record.Timestamp
import Kudos.Text.Quoted
import Kudos.Text.Shown

/-!
# TOML values

The values of a configuration file, and the ways in which reading or writing one can go wrong. Most
faulty files are merely malformed; a few defeat the reader in another way, and those are told apart.
-/

namespace Kudos

/-- A TOML value. -/
inductive Toml where
  /-- A string. -/
  | string (t : Text)
  /-- An integer. -/
  | int (n : Int)
  /-- A number with a fraction or an exponent. -/
  | real (x : Binary64)
  /-- A truth value. -/
  | bool (b : Bool)
  /-- A date with a time of day. -/
  | timestamp (t : Timestamp)
  /-- A date. -/
  | date (d : Date)
  /-- A time of day. -/
  | time (t : TimeOfDay)
  /-- An array. -/
  | array (items : List Toml)
  /-- A table. -/
  | table (fields : List (Text × Toml))
  deriving Repr, Inhabited

namespace Toml

/-- The fields of a table. -/
abbrev Table := List (Text × Toml)

/-- A kind of values. The items of an array are of one kind; a date may have a time of day. -/
inductive Kind where
  /-- Strings. -/
  | string
  /-- Integers. -/
  | int
  /-- Numbers with a fraction or an exponent. -/
  | real
  /-- Truth values. -/
  | bool
  /-- Dates. -/
  | date
  /-- Times of day. -/
  | time
  /-- Arrays. -/
  | array
  /-- Tables. -/
  | table
  deriving Repr, DecidableEq

/-- The kind of a value. -/
def kind : Toml → Kind
  | string _ => .string
  | int _ => .int
  | real _ => .real
  | bool _ => .bool
  | timestamp _ => .date
  | date _ => .date
  | time _ => .time
  | array _ => .array
  | table _ => .table

/-- Whether the value is a table. -/
def isTable : Toml → Bool
  | table _ => true
  | _ => false

/-- What is wrong with a text that is to be read, or with a value that is to be written. -/
inductive Flaw where
  /-- The text does not follow the notation. -/
  | malformed
  /-- There are fewer parts than the notation calls for. -/
  | partMissing
  /-- There are fewer characters than the notation calls for. -/
  | characterMissing
  /-- A table is needed where there is another value. -/
  | notTable
  /-- An escape names a number far beyond all characters. -/
  | codeTooLarge
  /-- A value goes beyond a limit. -/
  | beyond (limit : Overrun)
  deriving Repr, DecidableEq

/-- The wording of a flaw; empty if it has none of its own. -/
def Flaw.message : Flaw → Text
  | partMissing => "list index out of range".toList
  | characterMissing => "string index out of range".toList
  | beyond limit => limit.message
  | _ => []

mutual

/-- The value in the notation in which collections are shown to people. -/
def toShown : Toml → Shown
  | string t => .plain (Text.quote t)
  | int n => .plain (Text.ofInt n)
  | real x => .plain x.shortest
  | bool b => .plain (if b then "True".toList else "False".toList)
  | timestamp t => .plain (t.textWith ' ')
  | date d => .plain d.text
  | time t => .plain t.text
  | array items => .list (listToShown items)
  | table fields => .fields (fieldsToShown fields)

/-- The items of an array, shown. -/
def listToShown : List Toml → List Shown
  | [] => []
  | v :: rest => toShown v :: listToShown rest

/-- The fields of a table, shown. -/
def fieldsToShown : List (Text × Toml) → List (Text × Shown)
  | [] => []
  | (k, v) :: rest => (Text.quote k, toShown v) :: fieldsToShown rest

end

mutual

/-- The first limit that a value goes beyond, in the order in which it is shown; none if it goes
beyond none. -/
def overrun? (l : Limits) : Toml → Option Overrun
  | int n => if l.excludes (Number.digitCount n) then some (.digits none) else none
  | array items =>
    match l.inside? with
    | none => some .levels
    | some l => listOverrun? l items
  | table fields =>
    match l.inside? with
    | none => some .levels
    | some l => fieldsOverrun? l fields
  | _ => none

/-- The first limit that the items of an array go beyond. -/
def listOverrun? (l : Limits) : List Toml → Option Overrun
  | [] => none
  | v :: rest => (overrun? l v).or (listOverrun? l rest)

/-- The first limit that the fields of a table go beyond. -/
def fieldsOverrun? (l : Limits) : List (Text × Toml) → Option Overrun
  | [] => none
  | (_, v) :: rest => (overrun? l v).or (fieldsOverrun? l rest)

end

/-- The value as a text for people: a string as it is, anything else as it is shown, unless it goes
beyond a limit. -/
def display (l : Limits) : Toml → Except Overrun Text
  | string t => .ok t
  | v =>
    match v.overrun? l with
    | some limit => .error limit
    | none => .ok v.toShown.text

end Toml

end Kudos
