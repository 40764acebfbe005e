import Kudos.Text.Word
import Kudos.Toml.Basic

/-!
# Logical lines

A configuration is read one line at a time. This module turns a text into the lines that count: a
comment becomes blanks, a newline inside an array becomes a blank, and one right behind the opening
mark of a string over several lines is taken out. The text is read once, from left to right, with a
`Cursor` that says what the next character belongs to.

Keys are checked on the way, since after this only their place on the line is known: a key is a run
of letters, digits, underscores and hyphens, or quoted, perhaps with dots in between, and an equals
sign follows it on the same line.
-/

namespace Kudos.Toml

open Text

/-- Where a cursor stands with regard to a key. -/
inductive KeyPlace where
  /-- Not at a key. -/
  | outside
  /-- Within a name. -/
  | inside
  /-- Behind a name, before the equals sign. -/
  | behind
  deriving Repr, DecidableEq

/-- The header that a cursor stands in. -/
inductive Header where
  /-- None. -/
  | none
  /-- A header in brackets. -/
  | table
  /-- A header in double brackets. -/
  | tables
  deriving Repr, DecidableEq

/-- What the next character of a text belongs to. -/
structure Cursor where
  /-- The place with regard to a key. -/
  key : KeyPlace := .outside
  /-- Whether the key has a dot. -/
  dotted : Bool := false
  /-- The mark of the open string. -/
  quote : Option Char := none
  /-- Whether a string over several lines is open. -/
  multiline : Bool := false
  /-- The open header. -/
  header : Header := .none
  /-- The number of open brackets of arrays. -/
  depth : Int := 0
  /-- Whether nothing but blanks stands before on the line. -/
  atStart : Bool := true
  /-- Whether a comment is open. -/
  comment : Bool := false
  deriving Repr, DecidableEq

/-- Whether a character opens and closes strings. -/
def isQuote (c : Char) : Bool :=
  c = '"' || c = '\''

/-- Whether an odd number of backslashes ends a text that is given from its end. -/
def escapedBehind (behind : Text) : Bool :=
  (behind.takeWhile (· == '\\')).length % 2 = 1

/-- Whether an odd number of backslashes ends a text. -/
def endsEscaped (t : Text) : Bool :=
  escapedBehind t.reverse

namespace Cursor

/-- Back in the name of a key, if a further name follows a dot or a blank. A text must not end
there. -/
def resumeKey (c : Cursor) : Option Char → Except Flaw Cursor
  | none => .error .partMissing
  | some next => .ok (if isBlank next || next = '.' then c else { c with key := .inside })

/-- Past a character that is no part of a key. -/
def endKey (c : Cursor) (x : Char) : Except Flaw Cursor :=
  if x = '=' then .ok { c with key := .outside, dotted := false } else .error .malformed

/-- Past a character of a key, given what stands before it, from its end, and what comes next. -/
def passKey (c : Cursor) (behind : Text) (x : Char) (next : Option Char) : Except Flaw Cursor :=
  if x = '\n' then .error .malformed
  else
    match c.quote with
    | some mark =>
      if x = mark && !escapedBehind behind then .ok { c with key := .behind, quote := none }
      else .ok c
    | none =>
      if c.key = .inside then
        if isBlank x then .ok { c with key := .behind }
        else if x = '.' then .ok { c with dotted := true }
        else if isWord x || x = '-' then .ok c
        else if c.dotted && behind.head? = some '.' && isQuote x then .ok { c with quote := some x }
        else c.endKey x
      else if isBlank x then (if c.dotted then c.resumeKey next else .ok c)
      else if x = '.' then { c with dotted := true }.resumeKey next
      else c.endKey x

/-- Past a quotation mark. The third mark in a row opens or closes a string over several lines. A
mark with an odd number of backslashes before it is part of its string, and so is one of the other
kind. -/
def passQuote (c : Cursor) (behind : Text) (x : Char) : Cursor :=
  if c.quote.isSome && c.quote ≠ some x then c
  else
    let marks := min 2 (behind.takeWhile (· == x)).length
    if x = '"' && marks ≠ 1 && escapedBehind (behind.drop marks) then c
    else if marks = 2 then
      { c with multiline := !c.multiline, quote := if c.multiline then none else some x }
    else { c with quote := if c.quote.isNone then some x else none }

/-- Past a bracket outside strings. At the start of a line one opens a header. -/
def passBracket (c : Cursor) (behind : Text) (x : Char) (next : Option Char) : Cursor :=
  match c.quote, c.header, x with
  | none, .none, '[' =>
    if c.atStart then { c with header := if next = some '[' then .tables else .table }
    else { c with depth := c.depth + 1 }
  | none, .none, ']' => { c with depth := c.depth - 1 }
  | none, .table, ']' => { c with header := .none }
  | none, .tables, ']' => if behind.head? = some ']' then { c with header := .none } else c
  | _, _, _ => c

/-- A text given from its end with a newline of a string over several lines added. Behind two marks
the newline is taken out: the marks move up to its place. -/
def addNewline : Text → Text
  | a :: b :: rest =>
    if isQuote a && b = a then
      match rest with
      | c :: rest => a :: a :: b :: (if c = a then ' ' else c) :: rest
      | [] => [a, a, b]
    else '\n' :: a :: b :: rest
  | behind => '\n' :: behind

/-- Past a newline. The result has the text before the cursor, from its end. -/
def passNewline (c : Cursor) (behind : Text) : Except Flaw (Cursor × Text) :=
  if c.multiline then .ok (c, addNewline behind)
  else if c.quote.isSome then .error .malformed
  else if c.depth ≠ 0 then .ok (c, ' ' :: behind)
  else .ok ({ c with atStart := true }, '\n' :: behind)

/-- Past the first character of a line that is not blank. Outside headers a key starts with it. -/
def passStart (c : Cursor) (x : Char) : Except Flaw Cursor :=
  if !c.atStart || isIndent x then .ok c
  else if c.header ≠ .none then .ok { c with atStart := false }
  else if x = '=' then .error .malformed
  else .ok { c with atStart := false, key := .inside }

/-- Past any character. The result has the text before the cursor, from its end. -/
def pass (c : Cursor) (behind : Text) (x : Char) (next : Option Char) :
    Except Flaw (Cursor × Text) :=
  if c.key ≠ .outside then do return (← c.passKey behind x next, x :: behind)
  else if x = '\n' then { c with comment := false }.passNewline behind
  else if c.comment then .ok (c, ' ' :: behind)
  else if isQuote x then do return (← (c.passQuote behind x).passStart x, x :: behind)
  else if x = '#' && c.quote.isNone && c.header = .none then
    .ok ({ c with comment := true }, ' ' :: behind)
  else do return (← (c.passBracket behind x next).passStart x, x :: behind)

/-- Whether a text may end at the cursor. -/
def mayEnd (c : Cursor) : Bool :=
  c.key = .outside && c.quote.isNone

/-- The text that is left when a cursor has passed all characters. -/
def passAll (c : Cursor) (behind : Text) : Text → Except Flaw Text
  | [] => if c.mayEnd then .ok behind.reverse else .error .malformed
  | x :: rest => do
    let (c, behind) ← c.pass behind x rest.head?
    c.passAll behind rest

end Cursor

/-- The lines of a text. -/
def lines (t : Text) : Except Flaw (List Text) := do
  return splitOn '\n' (← Cursor.passAll {} [] t)

end Kudos.Toml
