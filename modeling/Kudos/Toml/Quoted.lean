import Kudos.Text.Digit
import Kudos.Toml.Cut

/-!
# Quoted strings

The string that a text in quotation marks stands for. Between double marks a backslash starts an
escape; between single marks every character stands for itself. Three marks on either side enclose a
string over several lines.

Escapes are read before the marks are taken off.
-/

namespace Kudos.Toml

open Text

/-- The character that a letter behind a backslash stands for. -/
def escaped? : Char → Option Char
  | '0' => some '\x00'
  | 'b' => some '\x08'
  | 'f' => some '\x0c'
  | 'n' => some '\n'
  | 'r' => some '\r'
  | 't' => some '\t'
  | '"' => some '"'
  | _ => none

/-- Whether a letter starts an escape with the number of a character. -/
def isCodeMark (c : Char) : Bool :=
  c = 'u' || c = 'U'

/-- Whether nothing follows the mark that closes a string, given the pieces between its marks. Of a
string in triple marks, `empties` counts the empty pieces since the last other one. -/
def endsOnce (triple : Bool) : Bool → Nat → List Text → Bool
  | _, _, [] => true
  | closed, empties, piece :: rest =>
    if piece.isEmpty then
      if triple then endsOnce triple closed (empties + 1) rest
      else endsOnce triple true empties rest
    else if endsEscaped piece then endsOnce triple closed empties rest
    else if closed then false
    else if !triple || 1 < empties then endsOnce triple true empties rest
    else endsOnce triple closed 0 rest

/-- Whether a text in quotation marks ends with its string. -/
def isClosed (mark : Char) (t : Text) : Bool :=
  match splitOn mark (t.drop 1) with
  | [] :: [] :: pieces => endsOnce true false 0 pieces
  | pieces => endsOnce false false 0 pieces

/-- Whether every escape is known, given the pieces between backslashes behind the first one. The
flag says that the last backslash follows another one. -/
def escapesKnown : Bool → List Text → Bool
  | _, [] => true
  | doubled, [] :: rest => escapesKnown (!doubled) rest
  | doubled, (c :: _) :: rest =>
    ((escaped? c).isSome || isCodeMark c || doubled) && escapesKnown false rest

/-- The character with a number. -/
def numbered (code : Nat) : Except Flaw Char :=
  if 0x7FFFFFFF < code then .error .codeTooLarge
  else if h : code.isValidChar then .ok (Char.ofNatAux code h)
  else .error .malformed

/-- The character that up to eight hexadecimal digits in lower case name. A number that starts with
`d` must go on with a digit below eight. -/
def namedChar (digits : Text) : Except Flaw Char :=
  match hexNumber? digits, digits with
  | none, _ => .error .malformed
  | some _, [] => .error .characterMissing
  | some _, ['d'] => .error .characterMissing
  | some code, 'd' :: second :: _ =>
    if '0' ≤ second && second ≤ '7' then numbered code else .error .malformed
  | some code, _ => numbered code

/-- The pieces behind the marks of numbered characters with these characters in place. A mark whose
backslash follows another one is no mark. -/
def readCodes (width : Nat) (mark : Text) : Bool → List Text → Except Flaw Text
  | _, [] => .ok []
  | true, piece :: rest => do
    return mark ++ piece ++ (← readCodes width mark (endsEscaped piece) rest)
  | false, piece :: rest => do
    let digits := (piece.take width).map Char.toLower
    let c ← namedChar digits
    return c :: piece.drop digits.length ++ (← readCodes width mark false rest)

/-- A text with the characters that escapes name by number in place. -/
def withCodes (width : Nat) (mark : Text) (t : Text) : Except Flaw Text :=
  match cut mark t.length t with
  | [] => .ok t
  | first :: rest => do return first ++ (← readCodes width mark (endsEscaped first) rest)

/-- A text with the characters that escapes name by a letter in place. -/
def withLetters : Text → Except Flaw Text
  | [] => .ok []
  | ['\\'] => .ok ['\\']
  | '\\' :: c :: rest =>
    match escaped? c with
    | some meant => return meant :: (← withLetters rest)
    | none =>
      if c = '\\' then return '\\' :: (← withLetters rest)
      else if isCodeMark c then return '\\' :: c :: (← withLetters rest)
      else .error .malformed
  | c :: rest => return c :: (← withLetters rest)

/-- A text between double marks with all escapes read. -/
def readEscapes (t : Text) : Except Flaw Text := do
  if escapesKnown false ((splitOn '\\' t).drop 1) then
    withLetters (← withCodes 8 ['\\', 'U'] (← withCodes 4 ['\\', 'u'] t))
  else .error .malformed

/-- A text without the marks around it. -/
def withoutMarks (mark : Char) (t : Text) : Text :=
  match t with
  | _ :: second :: rest =>
    if second = mark && (rest.isEmpty || rest.head? = some mark) then inner 1 (inner 2 t)
    else inner 1 t
  | _ => inner 1 t

/-- The string that a text in quotation marks of one kind stands for. -/
def unquote (mark : Char) (t : Text) : Except Flaw Text := do
  if !isClosed mark t then .error .malformed
  else if mark = '"' then return withoutMarks mark (← readEscapes t)
  else return withoutMarks mark t

end Kudos.Toml
