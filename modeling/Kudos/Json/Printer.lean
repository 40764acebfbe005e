import Kudos.Json.Basic
import Kudos.Text.Quoted

/-!
# Writing JSON

JSON text in ASCII: every unit outside the visible ASCII characters is written as an escape. Three
styles differ in the blanks between items: on one line with blanks behind commas and colons, on one
line without blanks, and with each item on a line of its own.

`write` is the notation of a value. Where a value comes from outside, `writeWithin` looks at the
limits first; what the program makes up by itself from texts and line numbers never reaches them.
-/

namespace Kudos.Json

/-- Where blanks stand in JSON text. -/
inductive Style where
  /-- One line, a blank behind each comma and colon. -/
  | spaced
  /-- One line without blanks. -/
  | compact
  /-- Each item on its own line, indented by two blanks for each level. -/
  | indented
  deriving Repr, DecidableEq

namespace Style

/-- A new line with the indentation of a level. -/
def newline (depth : Nat) : Text :=
  '\n' :: List.replicate (2 * depth) ' '

/-- What stands before the first item at a level, or behind the last one of the level above. -/
def edge : Style → Nat → Text
  | indented, depth => newline depth
  | _, _ => []

/-- What separates the items at a level. -/
def comma : Style → Nat → Text
  | spaced, _ => [',', ' ']
  | compact, _ => [',']
  | indented, depth => ',' :: newline depth

/-- What stands between a key and its value. -/
def colon : Style → Text
  | compact => [':']
  | _ => [':', ' ']

end Style

/-- The escape of a unit by its number. -/
def escapeNumber (u : UInt16) : Text :=
  '\\' :: 'u' :: Text.hex 4 u.toNat

/-- A unit inside a string. -/
def writeUnit (u : UInt16) : Text :=
  let n := u.toNat
  if n = 0x22 then ['\\', '"']
  else if n = 0x5C then ['\\', '\\']
  else if n = 0x0A then ['\\', 'n']
  else if n = 0x0D then ['\\', 'r']
  else if n = 0x09 then ['\\', 't']
  else if n = 0x08 then ['\\', 'b']
  else if n = 0x0C then ['\\', 'f']
  else if 0x20 ≤ n && n < 0x7F then [Char.ofNat n]
  else escapeNumber u

/-- A string with its quotation marks. -/
def writeString (s : Units) : Text :=
  '"' :: s.flatMap writeUnit ++ ['"']

/-- A double precision number. -/
def writeReal : Binary64 → Text
  | .nan => "NaN".toList
  | .infinity false => "Infinity".toList
  | .infinity true => "-Infinity".toList
  | x => x.shortest

mutual

/-- A value at a level of nesting. -/
def writeAt (style : Style) (depth : Nat) : Json → Text
  | null => "null".toList
  | bool b => if b then "true".toList else "false".toList
  | int n => Text.ofInt n
  | real x => writeReal x
  | string s => writeString s
  | array [] => ['[', ']']
  | array (v :: rest) =>
    '[' :: style.edge (depth + 1) ++ writeItems style (depth + 1) (v :: rest) ++
      style.edge depth ++ [']']
  | object [] => ['\x7b', '\x7d']
  | object (f :: rest) =>
    '\x7b' :: style.edge (depth + 1) ++ writeFields style (depth + 1) (f :: rest) ++
      style.edge depth ++ ['\x7d']

/-- The items of an array with commas between them. -/
def writeItems (style : Style) (depth : Nat) : List Json → Text
  | [] => []
  | [v] => writeAt style depth v
  | v :: rest => writeAt style depth v ++ style.comma depth ++ writeItems style depth rest

/-- The fields of an object with commas between them. -/
def writeFields (style : Style) (depth : Nat) : List (Units × Json) → Text
  | [] => []
  | [(k, v)] => writeString k ++ style.colon ++ writeAt style depth v
  | (k, v) :: rest =>
    writeString k ++ style.colon ++ writeAt style depth v ++ style.comma depth ++
      writeFields style depth rest

end

/-- The text of a value. -/
def write (style : Style) (v : Json) : Text :=
  writeAt style 0 v

/-- The text of a value, unless it goes beyond a limit. -/
def writeWithin (l : Limits) (style : Style) (v : Json) : Except Overrun Text :=
  match v.overrun? l with
  | some limit => .error limit
  | none => .ok (v.write style)

end Kudos.Json
