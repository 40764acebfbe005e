import Kudos.Text.Cells
import Kudos.Text.LineBreak

/-!
# Wrapping

A text laid out in lines of a bounded number of cells. Lines end at newlines, and where a word would
pass the bound; a word that is longer than a whole line is cut. Tabs lead to the next multiple of
eight cells. Controls that would move the cursor are dropped before.
-/

namespace Kudos.Wrap

open Text

/-- The text without the controls that a terminal would act on: bell, backspace, vertical tab, form
feed and carriage return. -/
def dropControls (t : Text) : Text :=
  t.filter fun c => !([7, 8, 11, 12, 13].contains c.toNat)

/-- The distance between tab stops. -/
def tabSize : Nat := 8

/-- The text with blanks for tabs, of which the first character comes behind some cells. -/
def expandTabs (position : Nat) : Text → Text
  | [] => []
  | '\t' :: rest =>
    let blanks := tabSize - position % tabSize
    List.replicate blanks ' ' ++ expandTabs (position + blanks) rest
  | c :: rest => c :: expandTabs (position + cellsOf c) rest

/-- The text cut behind each run of blanks that a word follows. -/
def cutBehindBlanks : Text → List Text
  | [] => []
  | c :: rest =>
    match cutBehindBlanks rest with
    | [] => [[c]]
    | piece :: pieces =>
      if isBlank c && !(piece.head?.any isBlank) then [c] :: piece :: pieces
      else (c :: piece) :: pieces

/-- The words of a text, each with the blanks behind it, and the first with those before it. Blanks
alone count as one word. -/
def words (t : Text) : List Text :=
  let (leading, rest) := t.span isBlank
  match cutBehindBlanks rest with
  | [] => [leading]
  | w :: ws => (leading ++ w) :: ws

/-- A word cut into pieces of a bounded number of cells. -/
def fold (width : Nat) (used : Nat) (piece : Text) : Text → List Text
  | [] => [piece.reverse]
  | c :: rest =>
    let n := cellsOf c
    if width < used + n then piece.reverse :: fold width n [c] rest
    else fold width (used + n) (c :: piece) rest

/-- Puts words on lines, of which the last one, so far, uses some cells. -/
def place (width : Nat) (used : Nat) (line : Text) : List Text → List Text
  | [] => [line]
  | w :: ws =>
    let length := cells (dropRightWhile isBlank w)
    if used + length ≤ width then place width (used + cells w) (line ++ w) ws
    else if width < length then
      let pieces := fold width 0 [] w
      let last := pieces.getLastD []
      (if line.isEmpty then [] else [line]) ++ pieces.dropLast ++ place width (cells last) last ws
    else if used = 0 || line.isEmpty then place width used (line ++ w) ws
    else line :: place width (cells w) w ws

/-- A line without the blanks at its end that pass the bound. -/
def dropEnd (width : Nat) (line : Text) : Text :=
  let blanks := (line.reverse.takeWhile isBlank).length
  line.take (line.length - min blanks (line.length - width))

/-- The characters at the start of a line that fit into some cells, filled up with blanks. -/
def crop (width : Nat) : Text → Text
  | [] => List.replicate width ' '
  | c :: rest =>
    let n := cellsOf c
    if n ≤ width then c :: crop (width - n) rest else List.replicate width ' '

/-- The lines of one line of text. -/
def line (width : Nat) (t : Text) : List Text :=
  let t := if t.contains '\t' then expandTabs 0 t else t
  let pieces := if t.all isBlank then [t] else place width 0 [] (words t)
  pieces.map fun l =>
    let l := dropEnd width l
    if width < cells l then crop width l else l

/-- The lines of a text. -/
def lines (width : Nat) (t : Text) : List Text :=
  (splitOn '\n' t).flatMap (line width)

/-- A line filled up with blanks to some cells. -/
def padRight (width : Nat) (t : Text) : Text :=
  t ++ List.replicate (width - cells t) ' '

end Kudos.Wrap
