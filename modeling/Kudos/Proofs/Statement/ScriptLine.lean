import Mathlib
import Kudos.Statement.Script
import Kudos.Proofs.Statement.Token

/-!
# Written script statements

The import statements of scripts as they are written, one to a line: the `import` statement with all
its clauses and the `require` statement with one name or a list of them. Each kind of clause has its
text and the names that it binds, in written order. White space may stand wherever the statement has
room for it.
-/

namespace Kudos.Script

open Text

/-- What the names of an `import` clause are written with. -/
def isNameChar (c : Char) : Bool :=
  isWord c || c = '$'

/-- Spaces and tabs, or nothing. -/
abbrev Space := Run isIndent

/-- At least one space or tab. -/
abbrev Gap := Run1 isIndent

/-- A name in an `import` clause. -/
structure Name extends Run1 isNameChar where
  /-- It is not the keyword before the specifier. -/
  ne_from : text ≠ "from".toList
  /-- It is not the keyword before an alias. -/
  ne_as : text ≠ "as".toList

/-- A module specifier: visible characters without quotation marks. -/
abbrev Specifier := Run1 fun c => !isBlank c && !isQuote c

theorem isQuote_apostrophe : isQuote '\'' := by decide

/-- A name with an alias, if it has one. -/
structure Entry where
  name : Name
  /-- The local name, with what stands around the keyword before it. -/
  renamed : Option (Gap × Gap × Name)

/-- The entry as written. -/
def Entry.text (e : Entry) : Text :=
  match e.renamed with
  | none => e.name.text
  | some (gap, gap', name) => e.name.text ++ (gap.text ++ "as".toList ++ gap'.text ++ name.text)

/-- The local name. -/
def Entry.bound (e : Entry) : Text :=
  match e.renamed with
  | none => e.name.text
  | some (_, _, name) => name.text

/-- An entry between the commas or braces around it. -/
structure Item where
  before : Space
  entry : Entry
  behind : Space

/-- The item as written. -/
def Item.text (i : Item) : Text :=
  i.before.text ++ i.entry.text ++ i.behind.text

/-- A list of entries in braces. Without a final item it is empty or ends with a comma. -/
structure Braces where
  /-- The items with a comma behind them. -/
  leading : List Item
  final : Option Item
  /-- What stands before the closing brace. -/
  gap : Space

/-- Items with a comma behind each. -/
def writtenItems (items : List Item) : Text :=
  items.flatMap fun i => i.text ++ [',']

/-- What stands behind the last comma, with the closing brace. -/
def Braces.ending (b : Braces) : Text :=
  (b.final.elim [] Item.text) ++ b.gap.text ++ ['\x7d']

/-- The list as written. -/
def Braces.text (b : Braces) : Text :=
  '\x7b' :: (writtenItems b.leading ++ b.ending)

/-- The local names of the entries. -/
def Braces.names (b : Braces) : List Text :=
  (b.leading ++ b.final.toList).map (·.entry.bound)

/-- What may stand behind a default name and a comma, or alone. -/
inductive Selection where
  /-- `* as name`. -/
  | star (gap gap' : Gap) (name : Name)
  | braces (b : Braces)

/-- The selection as written. -/
def Selection.text : Selection → Text
  | star gap gap' name => ['*'] ++ (gap.text ++ "as".toList ++ gap'.text ++ name.text)
  | braces b => b.text

/-- The names that it binds. -/
def Selection.names : Selection → List Text
  | star _ _ name => [name.text]
  | braces b => b.names

/-- What stands between `import` and `from`. -/
inductive Clause where
  | plain (name : Name)
  | selected (s : Selection)
  /-- A default name, a comma and a selection. -/
  | both (name : Name) (before behind : Space) (s : Selection)

/-- The clause as written. -/
def Clause.text : Clause → Text
  | plain name => name.text
  | selected s => s.text
  | both name before behind s => name.text ++ before.text ++ ',' :: (behind.text ++ s.text)

/-- The names that it binds. -/
def Clause.names : Clause → List Text
  | plain name => [name.text]
  | selected s => s.names
  | both name _ _ s => name.text :: s.names

/-- `import clause from 'specifier'`, with or without a semicolon. -/
structure ImportLine where
  clause : Clause
  specifier : Specifier
  /-- The quotation mark at both ends of the specifier. -/
  mark : Char
  isQuote_mark : isQuote mark
  gap : Gap
  gap' : Gap
  gap'' : Gap
  /-- Whether a semicolon ends the line. -/
  semicolon : Bool

/-- The keyword and the clause. -/
def ImportLine.head (l : ImportLine) : Text :=
  "import".toList ++ l.gap.text ++ l.clause.text

/-- The specifier between its quotation marks. -/
def ImportLine.quoted (l : ImportLine) : Text :=
  l.mark :: (l.specifier.text ++ [l.mark])

/-- The statement, which ends with the closing quotation mark. -/
def ImportLine.statement (l : ImportLine) : Text :=
  l.head ++ (l.gap'.text ++ "from".toList ++ l.gap''.text ++ l.quoted)

/-- What stands behind the statement. -/
def ImportLine.ending (l : ImportLine) : Text :=
  if l.semicolon then [';'] else []

/-- The line as written. -/
def ImportLine.text (l : ImportLine) : Text :=
  l.statement ++ l.ending

/-- An `import` statement without its clause. -/
structure Frame where
  gap : Gap
  gap' : Gap
  gap'' : Gap
  specifier : Specifier
  /-- The quotation mark at both ends of the specifier. -/
  mark : Char
  isQuote_mark : isQuote mark

/-- The text before the specifier, with a clause. -/
def Frame.opening (f : Frame) (clause : Text) : Text :=
  "import".toList ++ f.gap.text ++ clause ++ (f.gap'.text ++ "from".toList ++ f.gap''.text)

/-- The specifier between its quotation marks. -/
def Frame.quoted (f : Frame) : Text :=
  f.mark :: (f.specifier.text ++ [f.mark])

/-- The statement with a clause, up to its closing quotation mark. -/
def Frame.statement (f : Frame) (clause : Text) : Text :=
  f.opening clause ++ f.quoted

/-- What stands around the clause of a line. -/
def ImportLine.frame (l : ImportLine) : Frame :=
  ⟨l.gap, l.gap', l.gap'', l.specifier, l.mark, l.isQuote_mark⟩

theorem ImportLine.statement_eq (l : ImportLine) : l.statement = l.frame.statement l.clause.text := by
  unfold Frame.statement Frame.opening Frame.quoted ImportLine.statement ImportLine.head ImportLine.quoted
  exact (List.append_assoc _ _ (l.mark :: (l.specifier.text ++ [l.mark]))).symm

/-- A name of a `require` statement with what stands around it. -/
structure Slot where
  before : Space
  name : Run1 isWord
  behind : Space

/-- The slot as written. -/
def Slot.text (s : Slot) : Text :=
  s.before.text ++ s.name.text ++ s.behind.text

/-- What a `require` statement assigns to. -/
inductive Target where
  | plain (name : Run1 isWord)
  /-- At least one name in braces. -/
  | braces (first : Slot) (others : List Slot)

/-- The names with their commas. -/
def writtenSlots (first : Slot) (others : List Slot) : Text :=
  first.text ++ others.flatMap fun s => ',' :: s.text

/-- The target as written. -/
def Target.text : Target → Text
  | plain name => name.text
  | braces first others => '\x7b' :: (writtenSlots first others ++ ['\x7d'])

/-- The names that it binds. -/
def Target.names : Target → List Text
  | plain name => [name.text]
  | braces first others => (first :: others).map (·.name.text)

/-- `const target = require('specifier');`, or the same with `let`. -/
structure RequireLine where
  /-- Whether the keyword is `let`. -/
  isLet : Bool
  gap : Gap
  target : Target
  before : Space
  behind : Space
  specifier : Specifier
  /-- The quotation mark at both ends of the specifier. -/
  mark : Char
  isQuote_mark : isQuote mark

/-- The keyword of the line. -/
def RequireLine.keyword (l : RequireLine) : Text :=
  if l.isLet then "let".toList else "const".toList

/-- The line as written. -/
def RequireLine.text (l : RequireLine) : Text :=
  l.keyword ++ l.gap.text ++ l.target.text ++ l.before.text ++ ['='] ++ l.behind.text ++
    "require".toList ++ ['('] ++ [l.mark] ++ l.specifier.text ++ [l.mark] ++ [')'] ++ [';']

/-- One line of a script that holds a statement. -/
inductive Form where
  | imports (l : ImportLine)
  | requires (l : RequireLine)

/-- The statement as written. -/
def Form.text : Form → Text
  | imports l => l.text
  | requires l => l.text

/-- The module that it names. -/
def Form.source : Form → Text
  | imports l => l.specifier.text
  | requires l => l.specifier.text

/-- The names that it binds. -/
def Form.names : Form → List Text
  | imports l => l.clause.names
  | requires l => l.target.names

/-- A statement with the line break behind it. -/
structure Line where
  form : Form
  /-- Whether a carriage return stands before the newline. -/
  hasReturn : Bool

/-- The line break. -/
def Line.break (l : Line) : Text :=
  if l.hasReturn then ['\r', '\n'] else ['\n']

/-- The line as written. -/
def Line.text (l : Line) : Text :=
  l.form.text ++ l.break

/-- The text that lines make up. -/
def written (ls : List Line) : Text :=
  ls.flatMap Line.text

end Kudos.Script
