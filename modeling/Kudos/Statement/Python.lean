import Kudos.Statement.Basic
import Kudos.Statement.NameList

/-!
# Python import statements

`import a, b as c` and `from m import x as y`, each on one line. A statement starts at the start of
a line, behind spaces and tabs, and ends at the last place where its name list and an alias can end
at the edge of a word. Every one counts as an import of a library.
-/

namespace Kudos.Python

open Text Pattern

/-- What a list of imported names is written with. -/
def isListChar (c : Char) : Bool :=
  isWord c || c = '*' || c = ',' || c = ' '

/-- `from m` with the blanks behind it. -/
def fromClause : Pattern :=
  word "from" ++ many1 isIndent ++ many1 isPathChar ++ many1 isIndent

/-- An alias behind the name list. -/
def lastAlias : Pattern :=
  many1 isIndent ++ word "as" ++ many1 isIndent ++ many1 isWord

/-- A whole statement with the blanks before it. -/
def statement : Pattern :=
  lineStart ++ many isIndent ++ optional fromClause ++ word "import" ++ many1 isIndent ++
    many1 isListChar ++ optional lastAlias ++ wordEdge

/-- The start of a statement that names a module; the module is its group. -/
def fromModule : Pattern :=
  word "from" ++ many1 isIndent ++ group (many1 isPathChar)

/-- The first keyword with the blanks behind it. -/
def keyword : Pattern :=
  (word "import" <|> word "from") ++ many1 isBlank

/-- The keyword between the module and the names. -/
def importKeyword : Pattern :=
  many1 isBlank ++ word "import" ++ many1 isBlank

/-- The name that one entry of a name list binds: its alias if it has one, and otherwise what stands
behind its last `import`. -/
def boundName (entry : Text) : Text :=
  match NameList.aliasPieces entry with
  | _ :: renamed :: _ => trim renamed
  | _ =>
    if occursIn "import".toList entry then trim ((importKeyword.pieces entry).getLastD [])
    else trim entry

/-- The names that a statement binds, without blanks before it. The entries are those of the text
behind the first keyword, so the first entry of `from m import x` is `m import x`. -/
def names (t : Text) : List Text :=
  match keyword.matchStart t with
  | none => []
  | some m =>
    ((NameList.entries (t.drop m.stop)).map boundName).filter fun name => !name.isEmpty

/-- The module that a statement names before `import`. -/
def moduleName (t : Text) : Text :=
  match fromModule.matchStart t with
  | some m => m.groupText 0
  | none => []

/-- The statements of a document, from its start to its end. -/
def recognize (d : Document) : List Statement :=
  (statement.found d.text).map fun m =>
    let written := trim m.text
    { line := d.lineOfOffset m.start
      offset := m.start
      source := moduleName written
      names := names written
      isExternal := true
      text := written }

/-- The statements of a text as written, with the blanks before them. -/
def listed (t : Text) : List Text :=
  (statement.found t).map (·.text)

end Kudos.Python
