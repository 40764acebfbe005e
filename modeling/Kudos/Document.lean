import Kudos.Limit

/-!
# Documents

A document is a text with a language tag. Its lines are the pieces between newlines, without one
trailing carriage return each; a text that ends with a newline has an empty last line. Lines are
counted from zero.

The line of an offset is found by a binary search in the table of the offsets at which lines start.
-/

namespace Kudos

/-- A read-only text with a language tag, and the path it was read from if there is one. -/
structure Document where
  /-- The whole text. -/
  text : Text
  /-- The tag that chooses how statements are recognized. -/
  language : String := "other"
  /-- Where the text was read from. -/
  path : Option Text := none
  deriving Repr, DecidableEq

namespace Document

/-- A line without the carriage return that may end it. -/
def dropCarriageReturn (line : Text) : Text :=
  match line.getLast? with
  | some '\r' => line.dropLast
  | _ => line

/-- The lines of the document; there is always at least one. -/
def lines (d : Document) : List Text :=
  (Text.splitOn '\n' d.text).map dropCarriageReturn

/-- The number of lines. -/
def lineCount (d : Document) : Nat :=
  d.lines.length

/-- There is at least one line. -/
theorem lineCount_pos (d : Document) : 0 < d.lineCount := by
  simpa [lineCount, lines, List.length_pos_iff] using Text.splitOn_ne_nil '\n' d.text

/-- The offsets behind the newlines of a text that starts at an offset. -/
def startsBehindNewlines : Text → Nat → List Nat
  | [], _ => []
  | c :: rest, offset =>
    if c = '\n' then (offset + 1) :: startsBehindNewlines rest (offset + 1)
    else startsBehindNewlines rest (offset + 1)

/-- The offsets at which lines start, in ascending order. -/
def lineStarts (d : Document) : List Nat :=
  0 :: startsBehindNewlines d.text 0

/-- The number of entries of an ascending table that are at most `x`, given that the entries before
`lo` are and the entries from `hi` on are not. -/
def countUpTo (table : Array Nat) (x lo hi : Nat) : Nat :=
  if lo < hi then
    let mid := (lo + hi) / 2
    if x < table.getD mid 0 then countUpTo table x lo mid
    else countUpTo table x (mid + 1) hi
  else lo
  termination_by hi - lo

/-- The line that holds an offset into the text. An offset before the text counts as its start and
one behind the text as its end. -/
def lineOfOffset (d : Document) (offset : Int) : Nat :=
  let table := d.lineStarts.toArray
  let place := min offset.toNat d.text.length
  countUpTo table place 0 table.size - 1

/-- Asking for a line that is not there. -/
structure LineOutOfRange where
  /-- The line asked for. -/
  index : Int
  /-- The last line there is. -/
  last : Nat
  deriving Repr, DecidableEq

/-- The wording of a failed look-up; none if the index is too long to be named. -/
def LineOutOfRange.message (e : LineOutOfRange) : Except Overrun Text := do
  return "line ".toList ++ (← Number.intText e.index) ++ " out of range (0..".toList ++
    Text.ofNat e.last ++ [')']

/-- The text of one line. -/
def lineAt (d : Document) (index : Int) : Except LineOutOfRange Text :=
  if index < 0 then .error ⟨index, d.lineCount - 1⟩
  else
    match d.lines[index.toNat]? with
    | some line => .ok line
    | none => .error ⟨index, d.lineCount - 1⟩

end Document

end Kudos
