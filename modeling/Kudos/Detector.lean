import Kudos.Grammar

/-!
# Detection of new imports

The detector remembers how many import statements the last check saw and reports a check that sees
more. The count is overwritten by every check, so an import that is dropped and added again is
reported again.
-/

namespace Kudos

/-- An edit: the inserted text and the line at which it was inserted. -/
structure Edit where
  /-- The inserted text; empty when the edit only deletes. -/
  text : Text
  /-- The line of the edit. -/
  startLine : Nat := 0
  deriving Repr, DecidableEq

namespace Edit

/-- Whether the edit inserts a newline. -/
def insertsNewline (e : Edit) : Bool :=
  e.text.contains '\n'

end Edit

namespace Detector

/-- The tags whose import statements are counted. -/
def countedTags : List String :=
  ["typescript", "python"]

/-- The import statements of a document as the detector counts them. -/
def statements (d : Document) : List Text :=
  if countedTags.contains d.language then
    match Grammar.ofTag? d.language with
    | some g => g.listed d.text
    | none => []
  else []

/-- The message for a new import statement. -/
def newImportMessage : Text :=
  "A new import statement was detected!".toList

end Detector

/-- The number of import statements at the last check. -/
structure Detector where
  /-- The number of statements that the last check saw. -/
  count : Nat := 0
  deriving Repr, DecidableEq

namespace Detector

/-- Counts the statements of a document; the answer says whether there are more than before. -/
def check (m : Detector) (d : Document) : Detector × Bool :=
  let count := (statements d).length
  (⟨count⟩, decide (m.count < count))

/-- A check that is made only if one of the edits inserts a newline. -/
def edited (m : Detector) (d : Document) (edits : List Edit) : Detector × Bool :=
  if edits.any Edit.insertsNewline then m.check d else (m, false)

end Detector

end Kudos
