import Kudos.Statement.Basic
import Kudos.Statement.NameList

/-!
# Script import statements

The two statements of JavaScript and TypeScript: `import … from 'm'`, which starts a line, and
`const { a, b } = require('m');`, which may stand anywhere. A module specifier that starts with `./`
or `/` names a file of the same project and every other one a library.
-/

namespace Kudos.Script

open Text Pattern

/-- Whether a specifier names a file of the same project. -/
def isLocal (specifier : Text) : Bool :=
  let t := trim specifier
  t.startsWith ['.', '/'] || t.startsWith ['/']

/-- Either quotation mark. -/
def isQuote (c : Char) : Bool :=
  c = '\'' || c = '"'

/-- Every character that can stand inside one line. -/
def isInline (c : Char) : Bool :=
  c != '\n'

/-- A whole `import` statement, up to the last quotation mark of a line. -/
def importStatement : Pattern :=
  lineStart ++ word "import" ++ many1 isBlank ++ many isInline ++ many1 isBlank ++ word "from" ++
    many1 isBlank ++ one isQuote ++ many isInline ++ one isQuote

/-- The keyword between the name clause and the specifier. -/
def fromKeyword : Pattern :=
  many1 isBlank ++ word "from" ++ many1 isBlank

/-- The keyword before the name clause. -/
def importKeyword : Pattern :=
  many isBlank ++ word "import" ++ many1 isBlank

/-- A quoted text on one line, which ends at the next mark of the kind that opened it; what stands
between the marks is its group. -/
def quoted : Pattern :=
  (char '\'' ++ group (few isInline) ++ char '\'') <|>
    (char '"' ++ group (few isInline) ++ char '"')

/-- An opening brace with the blanks around it. -/
def openBrace : Pattern :=
  many isBlank ++ char '\x7b' ++ many isBlank

/-- A closing brace with the blanks around it. -/
def closeBrace : Pattern :=
  many isBlank ++ char '\x7d' ++ many isBlank

/-- What the names of a `require` statement are written with. -/
def isListChar (c : Char) : Bool :=
  isWord c || c = ',' || isBlank c

/-- A whole `require` statement, up to the next semicolon. Its groups are the name list and the
specifier. -/
def requireStatement : Pattern :=
  (word "const" <|> word "let") ++ many1 isBlank ++ optional (char '\x7b') ++ many isBlank ++
    group (many1 isListChar) ++ many isBlank ++ optional (char '\x7d') ++ many isBlank ++
    char '=' ++ many isBlank ++ word "require" ++ many isBlank ++ char '(' ++ many isBlank ++
    one isQuote ++
    group (many1 fun c => !isQuote c) ++ one isQuote ++ many isBlank ++ char ')' ++
    many (· != ';') ++ char ';'

/-- The specifier in the text behind `from`: what the first pair of quotation marks encloses, or
everything behind the marks at the start if no pair closes. -/
def specifier (tail : Text) : Text :=
  match quoted.matchStart tail with
  | some m => m.groupText 0
  | none => tail.dropWhile isQuote

/-- The name clause and the specifier of an `import` statement. The statement is cut at its first
`from`, so text behind the first specifier does not count. -/
def splitImport (t : Text) : Text × Text :=
  let parts := fromKeyword.pieces t
  let clause :=
    match importKeyword.cut (parts.headD []) with
    | some (_, behind) => behind
    | none => []
  (clause, specifier (trim (parts.getD 1 [])))

/-- The name that one entry of an `import` clause binds: its alias if it has one, and of that what
stands inside braces. -/
def boundName (entry : Text) : Text :=
  if (NameList.asName.search entry).isSome || entry.contains '\x7b' || entry.contains '\x7d' then
    let name :=
      match NameList.aliasPieces entry with
      | _ :: renamed :: _ => renamed
      | _ => entry
    let opened :=
      match openBrace.pieces name with
      | _ :: inner :: _ => inner
      | pieces => pieces.headD []
    trim ((closeBrace.pieces opened).headD [])
  else trim entry

/-- The names that the clause between `import` and `from` binds. -/
def importNames (clause : Text) : List Text :=
  ((NameList.entries (trim clause)).map boundName).filter fun name => !name.isEmpty

/-- The names in the list of a `require` statement. -/
def requireNames (list : Text) : List Text :=
  let candidates :=
    if list.contains ',' then splitOn ',' (list.filter fun c => !isBlank c) else [trim list]
  candidates.filter fun name => !name.isEmpty

/-- The `import` statements of a document. -/
def imports (d : Document) : List Statement :=
  (importStatement.found d.text).map fun m =>
    let (clause, specifier) := splitImport m.text
    { line := d.lineOfOffset m.start
      offset := m.start
      source := specifier
      names := importNames clause
      isExternal := !isLocal specifier
      text := m.text }

/-- The `require` statements of a document. -/
def requires (d : Document) : List Statement :=
  (requireStatement.found d.text).map fun m =>
    { line := d.lineOfOffset m.start
      offset := m.start
      source := m.groupText 1
      names := requireNames (m.groupText 0)
      isExternal := !isLocal (m.groupText 1)
      text := m.text }

/-- The statements of a document by the place where they start. Of two that start at one place the
`import` statement comes first. -/
def recognize (d : Document) : List Statement :=
  (imports d ++ requires d).mergeSort fun a b => decide (a.offset ≤ b.offset)

/-- The specifiers of the `import` statements of a text, those of local files among them. -/
def listed (t : Text) : List Text :=
  (importStatement.found t).map fun m => (splitImport m.text).2

end Kudos.Script
