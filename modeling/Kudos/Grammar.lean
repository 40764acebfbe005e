import Kudos.Statement.Python
import Kudos.Statement.Script

/-!
# Grammars

The two families of statements, and the language tags that choose between them.
-/

namespace Kudos

/-- A family of import statements. -/
inductive Grammar where
  /-- `import a` and `from m import a`. -/
  | python
  /-- `import a from 'm'` and `const a = require('m');`. -/
  | script
  deriving Repr, DecidableEq

namespace Grammar

/-- The language tags whose documents are read with a grammar. -/
def tags : Grammar → List String
  | python => ["python"]
  | script => ["javascript", "typescript"]

/-- Whether documents with this tag are read with the grammar. -/
def supports (g : Grammar) (tag : String) : Bool :=
  g.tags.contains tag

/-- The grammar for a language tag, if there is one. -/
def ofTag? (tag : String) : Option Grammar :=
  [python, script].find? fun g => g.supports tag

theorem ofTag?_script {tag : String} (h : tag = "javascript" ∨ tag = "typescript") :
    ofTag? tag = some script := by
  rcases h with rfl | rfl <;> decide

/-- The statements of a document, in ascending order of their offsets. -/
def recognize : Grammar → Document → List Statement
  | python => Python.recognize
  | script => Script.recognize

/-- What the counting of import statements sees of a text: the statements themselves, or for scripts
the specifiers of the `import` statements. -/
def listed : Grammar → Text → List Text
  | python => Python.listed
  | script => Script.listed

end Grammar

end Kudos
