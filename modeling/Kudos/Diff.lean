import Kudos.Detector
import Kudos.Text.LineBreak

/-!
# Line differences

The edit that leads from one text to another, as chunks of inserted lines. The longest run of lines
that both texts have is kept, the earliest one in the old text and then in the new text if there are
several, and what lies before and behind it is compared in the same way. Lines that are not kept are
replaced by one chunk for each gap; a gap in which lines are only deleted has an empty chunk.
-/

namespace Kudos.Diff

/-- A run of lines that two texts share. -/
structure Run where
  /-- The number of old lines before it. -/
  old : Nat
  /-- The number of new lines before it. -/
  new : Nat
  /-- The number of lines in it. -/
  size : Nat
  deriving Repr, DecidableEq

/-- The lengths of the shared runs that start at a line and at each new line, given those that start
one line further in both texts. -/
def extendRuns (line : Text) (new : List Text) (next : List Nat) : List Nat :=
  List.zipWith (fun l n => if l = line then n + 1 else 0) new (next.drop 1 ++ [0])

/-- The greatest number of a list with its first position; zero for an empty list. -/
def firstGreatest : List Nat → Nat × Nat
  | [] => (0, 0)
  | n :: rest =>
    let (place, greatest) := firstGreatest rest
    if greatest ≤ n then (0, n) else (place + 1, greatest)

/-- The lengths of the shared runs that start at the first old line and at each new line, and the
longest shared run. -/
def longestRuns (new : List Text) : List Text → List Nat × Run
  | [] => (new.map fun _ => 0, ⟨0, 0, 0⟩)
  | line :: old =>
    let (next, best) := longestRuns new old
    let lengths := extendRuns line new next
    let (place, size) := firstGreatest lengths
    (lengths, if best.size ≤ size then ⟨0, place, size⟩ else { best with old := best.old + 1 })

/-- The longest run of lines that two texts share, of several the earliest in the old text and then
in the new one. Its size is zero if they share none. -/
def longestRun (old new : List Text) : Run :=
  (longestRuns new old).2

/-- The chunk that replaces old lines that are not kept. -/
def gap (old new : List Text) (start : Nat) : List Edit :=
  if old.isEmpty && new.isEmpty then [] else [⟨new.flatten, start⟩]

/-- The chunks that lead from old to new lines, of which `start` lines come before. The first
argument bounds the depth of the search; the number of old lines is enough. -/
def editsFrom : Nat → List Text → List Text → Nat → List Edit
  | 0, old, new, start => gap old new start
  | fuel + 1, old, new, start =>
    let run := longestRun old new
    if run.size = 0 then gap old new start
    else
      editsFrom fuel (old.take run.old) (new.take run.new) start ++
        editsFrom fuel (old.drop (run.old + run.size)) (new.drop (run.new + run.size))
          (start + run.new + run.size)

/-- The chunks of lines whose insertion leads from one text to the other. -/
def edits (old new : Text) : List Edit :=
  let oldLines := Text.splitLines old
  editsFrom oldLines.length oldLines (Text.splitLines new) 0

end Kudos.Diff
