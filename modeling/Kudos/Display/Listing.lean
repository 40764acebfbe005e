import Kudos.Display.Decoration
import Kudos.Display.Wrap
import Kudos.Document

/-!
# Listings

A document printed with a gutter: an icon beside the decorated lines, the line numbers from one, and
the lines. All columns are as wide as their widest entry.
-/

namespace Kudos.Listing

open Text

/-- The icon of a decorated line. -/
def icon : Text :=
  ['🙌']

/-- A row of a listing. -/
structure Row where
  /-- The line, from zero. -/
  line : Nat
  /-- The text of the line. -/
  text : Text
  /-- Whether the line is decorated. -/
  decorated : Bool
  deriving Repr, DecidableEq

/-- The rows of a document, or only the decorated ones. -/
def rows (d : Document) (decorations : List Decoration) (onlyDecorated : Bool) : List Row :=
  (d.lines.zipIdx.map fun (text, line) =>
    { line, text := Wrap.dropControls text
      decorated := decorations.any fun e => e.line = line : Row }).filter fun r =>
    r.decorated || !onlyDecorated

/-- The number that is shown beside a row. -/
def Row.number (r : Row) : Text :=
  ofNat (r.line + 1)

/-- The cells of the widest line of a text. -/
def measure (t : Text) : Nat :=
  ((splitLines t).map fun l => cells (l.filter fun c => !isLineBreak c)).foldl max 0

/-- The greatest of some widths. -/
def widest (ns : List Nat) : Nat :=
  ns.foldl max 0

/-- The lines of print for the text of one row, given the width of the text. Without any width
nothing of a text is shown. -/
def Row.textLines (textWidth : Nat) (r : Row) : List Text :=
  if textWidth = 0 then [[]] else (Wrap.lines textWidth r.text).map (Wrap.padRight textWidth)

/-- The lines of print for one row, given the widths of the numbers and of the text. A text that
does not fit goes on below, with blanks for the gutter and the number. -/
def Row.print (numberWidth textWidth : Nat) (r : Row) : List Text :=
  let gutter := Wrap.padRight 4 (if r.decorated then icon else [])
  let number := Text.padLeft numberWidth ' ' r.number ++ [' ', ' ']
  match r.textLines textWidth with
  | [] => []
  | first :: more =>
    (gutter ++ number ++ first) ::
      more.map (List.replicate (4 + numberWidth + 2) ' ' ++ ·)

/-- The listing of a document on lines of some cells, each line with its newline. -/
def print (width : Nat) (d : Document) (decorations : List Decoration) (onlyDecorated : Bool) :
    Text :=
  let shown := rows d decorations onlyDecorated
  let numberWidth := widest (shown.map fun r => r.number.length)
  let textWidth := min (widest (shown.map fun r => measure r.text)) (width - (4 + numberWidth + 2))
  (shown.flatMap (Row.print numberWidth textWidth)).flatMap (· ++ ['\n'])

end Kudos.Listing
