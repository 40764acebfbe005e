import Kudos.Document

/-!
# Mention of imports

A cheap test whether a document may import anything: whether its text holds one of the words with
which every import statement is written.
-/

namespace Kudos

namespace Document

/-- The words of which every import statement holds one. -/
def importWords : List Text :=
  ["import".toList, "require".toList]

/-- Whether the text holds one of the words, be it inside a longer one. -/
def mentionsImports (d : Document) : Bool :=
  importWords.any fun w => Text.occursIn w d.text

end Document

end Kudos
