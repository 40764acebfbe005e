import Kudos.Text.Quoted
import Kudos.Toml.Cut

/-!
# Writing TOML

A configuration as text: the plain entries first, then the tables of the top level in their order,
then the tables below them, level by level. A blank line stands before each header if there is text
before it. An array that holds tables is written as a header in double brackets for each of them.
-/

namespace Kudos.Toml

open Text

/-- The number of backslashes at the end of a text, its first character left out. -/
def closingBackslashes (t : Text) : Nat :=
  min (t.reverse.takeWhile (· == '\\')).length (t.length - 1)

/-- Whether an escape in two hexadecimal digits that follows a text is written with four of them. -/
def takesFourDigits (before : Text) : Bool :=
  before.getLast? = some '\\' && closingBackslashes before % 2 = 0

/-- A text with each pair of backslashes as one. -/
def halveBackslashes : Text → Text
  | '\\' :: '\\' :: rest => '\\' :: halveBackslashes rest
  | c :: rest => c :: halveBackslashes rest
  | [] => []

/-- The pieces around the marks of escapes in two hexadecimal digits put together. Pairs of
backslashes before a mark become single ones. -/
def joinEscapes (before : Text) : List Text → Text
  | [] => before
  | piece :: rest =>
    let t := halveBackslashes before
    joinEscapes (t ++ (if takesFourDigits t then "u00".toList else ['x']) ++ piece) rest

/-- The text between the marks of a string. A text that is nothing but one escape in two hexadecimal
digits at its start has no written form. -/
def stringBody (t : Text) : Except Flaw Text :=
  let body := t.flatMap (quoteChar '"')
  match cut ['\\', 'x'] body.length body with
  | [] :: [_] => .error .partMissing
  | [] :: piece :: rest => .ok (joinEscapes piece rest)
  | piece :: rest => .ok (joinEscapes piece rest)
  | [] => .ok []

/-- A string in double marks. -/
def stringText (t : Text) : Except Flaw Text := do
  return '"' :: (← stringBody t) ++ ['"']

/-- A key, in marks unless it is a bare name. -/
def keyText (key : Text) : Except Flaw Text :=
  if !key.isEmpty && key.all fun c => c.isAlphanum || c = '_' || c = '-' then .ok key
  else stringText key

/-- An exponent of two digits without a zero in front. -/
def trimExponent : Text → Text
  | 'e' :: '+' :: '0' :: rest => 'e' :: '+' :: trimExponent rest
  | 'e' :: '-' :: '0' :: rest => 'e' :: '-' :: trimExponent rest
  | c :: rest => c :: trimExponent rest
  | [] => []

/-- A point in time; universal time is written `Z`. -/
def timestampText (t : Timestamp) : Text :=
  match t.offset with
  | some 0 => ({ t with offset := none } : Timestamp).iso ++ ['Z']
  | _ => t.iso

mutual

/-- A value behind an equals sign or in an array. A table in an array of arrays stands for its
keys. The number is that of the calls that the stack has room for: each array takes two of them. -/
def valueText (room : Nat) : Toml → Except Flaw Text
  | string t => stringText t
  | int n => (Number.intText n).mapError .beyond
  | real x => .ok (trimExponent x.shortest)
  | bool b => .ok (if b then "true".toList else "false".toList)
  | timestamp t => .ok (timestampText t)
  | date d => .ok d.text
  | time t => .ok t.text
  | array items =>
    match room with
    | room + 2 => do return '[' :: (← itemsText room items) ++ [']']
    | _ => .error (.beyond .levels)
  | table fields =>
    match room with
    | _ + 2 => do return '[' :: (← keysText fields) ++ [']']
    | _ => .error (.beyond .levels)

/-- The items of an array, each with a blank before it and a comma behind it. -/
def itemsText (room : Nat) : List Toml → Except Flaw Text
  | [] => .ok []
  | v :: rest => do return ' ' :: (← valueText room v) ++ ',' :: (← itemsText room rest)

/-- The keys of a table, written like the items of an array. -/
def keysText : List (Text × Toml) → Except Flaw Text
  | [] => .ok []
  | (k, _) :: rest => do return ' ' :: (← stringText k) ++ ',' :: (← keysText rest)

end

/-- The parts that the entries of a table are written in. -/
structure Sections where
  /-- The plain entries. -/
  entries : Text := []
  /-- The arrays of tables. -/
  arrays : Text := []
  /-- The tables below, by their names. -/
  tables : List (Text × Table) := []

/-- The plain entries with the arrays of tables behind them. -/
def Sections.text (s : Sections) : Text :=
  s.entries ++ s.arrays

/-- The parts of some entries and of those behind them. -/
def Sections.append (s t : Sections) : Sections :=
  ⟨s.entries ++ t.entries, s.arrays ++ t.arrays, s.tables ++ t.tables⟩

/-- A header. -/
def headerText (name : Text) : Text :=
  '[' :: name ++ [']', '\n']

/-- A name below another one; the name of the configuration itself is empty. -/
def nameBelow (outer name : Text) : Text :=
  if outer.isEmpty then name else outer ++ '.' :: name

/-- The tables below an item of an array of tables, level by level, and the text before them. Tables
without a text of their own are passed over. -/
def itemTables (split : Text → Table → Except Flaw Sections) (name : Text) :
    Nat → List (Text × Table) → Except Flaw Text
  | _, [] => .ok []
  | 0, _ => .error .malformed
  | fuel + 1, tables => do
    let parts ← tables.mapM fun (inner, fields) => do
      return (inner, ← split (nameBelow name inner) fields)
    let text := parts.flatMap fun (inner, s) =>
      if s.text.isEmpty then [] else headerText (nameBelow name inner) ++ s.text
    let next := parts.flatMap fun (inner, s) => s.tables.map fun (k, v) => (nameBelow inner k, v)
    return text ++ (← itemTables split name fuel next)

/-- The levels of tables in a value. -/
def levels : Toml → Nat
  | array items => 1 + go items
  | table fields => 1 + goFields fields
  | _ => 0
where
  /-- The greatest number of levels of some values. -/
  go : List Toml → Nat
    | [] => 0
    | v :: rest => max (levels v) (go rest)
  /-- The greatest number of levels of the values of some fields. -/
  goFields : List (Text × Toml) → Nat
    | [] => 0
    | (_, v) :: rest => max (levels v) (goFields rest)

/-- An item of an array of tables under its header. -/
def itemText (split : Text → Table → Except Flaw Sections) (name : Text) :
    Toml → Except Flaw Text
  | table fields => do
    let s ← split name fields
    let nested ← itemTables split name (levels (table fields)) s.tables
    let text := s.text
    let (own, behind) := if text.head? = some '[' then ([], text) else (text, [])
    return ['[', '['] ++ name ++ [']', ']', '\n'] ++ own ++ '\n' :: behind ++ nested
  | _ => .error .notTable

/-- The part that one entry of a table is written in, where the stack has room for some calls. -/
def entryPart (room : Nat) (split : Text → Table → Except Flaw Sections) (outer : Text) (key : Text)
    (value : Toml) : Except Flaw Sections := do
  let name ← keyText key
  match value with
  | table fields => return { tables := [(name, fields)] }
  | array items =>
    if items.any isTable then
      return { arrays := (← items.mapM (itemText split (nameBelow outer name))).flatten }
    else return { entries := name ++ " = ".toList ++ (← valueText room value) ++ ['\n'] }
  | _ => return { entries := name ++ " = ".toList ++ (← valueText room value) ++ ['\n'] }

/-- The parts that the entries of a table are written in, put together. -/
def tableParts (room : Nat) (split : Text → Table → Except Flaw Sections) (outer : Text)
    (fields : Table) : Except Flaw Sections := do
  let parts ← fields.mapM fun (key, value) => entryPart room split outer key value
  return parts.foldr Sections.append {}

/-- The parts of a table, given its name. The number is that of the calls that the stack has room
for: the tables of an array take one of them. -/
def split : Nat → Text → Table → Except Flaw Sections
  | 0 => tableParts 0 fun _ _ => .error (.beyond .levels)
  | room + 1 => tableParts (room + 1) (split room)

/-- A text with the header of a table and the entries of the table behind it. A table with tables
but no entries has no header. -/
def addSection (before : Text) (name : Text) (s : Sections) : Text :=
  if s.text.isEmpty && !s.tables.isEmpty then before
  else
    let blank := if before.isEmpty || before.reverse.take 2 = ['\n', '\n'] then [] else ['\n']
    before ++ blank ++ headerText name ++ s.text

/-- A text with tables behind it, level by level. -/
def addTables (room : Nat) : Nat → Text → List (Text × Table) → Except Flaw Text
  | _, before, [] => .ok before
  | 0, _, _ => .error .malformed
  | fuel + 1, before, tables => do
    let parts ← tables.mapM fun (name, fields) => do return (name, ← split room name fields)
    let text := parts.foldl (fun text (name, s) => addSection text name s) before
    addTables room fuel text
      (parts.flatMap fun (name, s) => s.tables.map fun (k, v) => (nameBelow name k, v))

/-- The text of a configuration, where the stack has room for some calls. -/
def toText (room : Nat) (fields : Table) : Except Flaw Text := do
  let s ← split room [] fields
  addTables room (levels (table fields)) s.text s.tables

end Kudos.Toml
