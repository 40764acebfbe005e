import Kudos.Document
import Kudos.Files.Tree
import Kudos.Text.LineBreak
import Kudos.Text.Utf8

/-!
# Files as documents

The language tag of a file by its extension, and the document that a file holds: its well-formed
UTF-8, with every line break turned into a newline.
-/

namespace Kudos

namespace Language

/-- The tag of documents without a grammar. -/
def other : String := "other"

/-- The tags for which there is a grammar, in ascending order. -/
def supported : List String :=
  ["javascript", "python", "typescript"]

/-- The file extensions and the tags they stand for. -/
def extensions : List (String × String) := [
  (".py", "python"), (".pyw", "python"),
  (".js", "javascript"), (".jsx", "javascript"), (".mjs", "javascript"), (".cjs", "javascript"),
  (".ts", "typescript"), (".tsx", "typescript"), (".mts", "typescript"), (".cts", "typescript")]

/-- The tag for the extension of a path, in any case. -/
def ofPath (p : Path) : String :=
  let extension := p.extension.map Char.toLower
  match extensions.find? fun e => e.1.toList = extension with
  | some (_, tag) => tag
  | none => other

end Language

namespace Document

/-- The document that a file of these bytes holds. An absent or empty tag leaves the choice to the
extension. -/
def ofBytes (p : Path) (language : Option String) (bytes : List UInt8) : Document :=
  let tag :=
    match language with
    | some tag => if tag.isEmpty then Language.ofPath p else tag
    | none => Language.ofPath p
  { text := Text.joinLineBreaks (Utf8.decodeLossy bytes), language := tag, path := some p.text }

/-- The document in a file. -/
def open? (files : FileTree) (p : Path) (language : Option String) : Except FileError Document :=
  (files.read p).map (ofBytes p language)

end Document

end Kudos
