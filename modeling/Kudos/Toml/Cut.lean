import Kudos.Text.LineBreak
import Kudos.Toml.Lines

/-!
# Cutting lines at separators

A separator inside quotation marks does not count. A line is therefore first divided at its
quotation marks into parts that are in turn outside and inside of them, and the separators in the
parts before the first one outside tell how often the line has to be cut.
-/

namespace Kudos.Toml

open Text

/-- The pieces of a text between at most `limit` occurrences of a separator, from the left. -/
def cut (separator : Text) (limit : Nat) : Text → List Text
  | [] => [[]]
  | c :: rest =>
    if limit ≠ 0 && separator.isPrefixOf (c :: rest) then
      [] :: cut separator (limit - 1) (rest.drop (separator.length - 1))
    else prependTo c (cut separator limit rest)
  termination_by t => t.length
  decreasing_by all_goals simp only [List.length_drop, List.length_cons]; omega

/-- The number of occurrences of a separator in a text. -/
def occurrences (separator t : Text) : Nat :=
  (cut separator t.length t).length - 1

/-- Pieces between single marks with pieces between double marks added until the last single mark is
closed. -/
def closeSingles : List Text → List Text → List Text × List Text
  | singles, [] => (singles, [])
  | singles, piece :: rest =>
    if singles.length % 2 = 1 then (singles, piece :: rest)
    else
      let joined := singles.getLastD [] ++ '"' :: piece
      closeSingles (singles.dropLast ++ splitOn '\'' joined) rest

/-- The first of some pieces between double marks divided at its single marks, and the others. -/
def divideFirst : List Text → List Text
  | [] => []
  | piece :: rest => splitOn '\'' piece ++ rest

/-- The parts of a line at its quotation marks, the first one outside and the second one inside of
them. -/
def quoteParts (line : Text) : List Text :=
  match splitOn '"' line with
  | [] => []
  | [piece] => divideFirst [piece]
  | piece :: rest =>
    if piece.contains '\'' then
      let (singles, rest) := closeSingles (splitOn '\'' piece) rest
      singles ++ divideFirst rest
    else divideFirst (piece :: rest)

/-- The number of cuts that reach the first separator outside quotation marks, given parts of which
the first one is inside or outside. -/
def cutsTo (separator : Text) (inside : Bool) : List Text → Nat
  | [] => 1
  | part :: rest =>
    let n := occurrences separator part
    if !inside && n ≠ 0 then 1 else n + cutsTo separator (!inside) rest

/-- The number of cuts of a line that reach its first separator outside quotation marks. -/
def cutsIn (separator line : Text) : Nat :=
  cutsTo separator false (quoteParts line)

/-- A text without some characters at either end. -/
def inner (n : Nat) (t : Text) : Text :=
  (t.drop n).take (t.length - 2 * n)

end Kudos.Toml
