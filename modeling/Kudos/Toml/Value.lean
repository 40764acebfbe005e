import Kudos.Toml.Entry

/-!
# Values

The value that a text stands for. The items of an array and the entries of an inline table are found
by cutting the text at commas; a piece that ends within a string is put together again with the next
one.
-/

namespace Kudos.Toml

open Text

/-- Whether an array starts with a string. -/
def startsWithString (array : Text) : Bool :=
  (trim (inner 1 array)).head?.any isQuote

/-- Whether a text ends with the mark that it starts with. An empty text counts as such. -/
def isBounded (t : Text) : Bool :=
  t.isEmpty || (t.getLast? = t.head? && !endsEscaped (t.drop 1).dropLast)

/-- Whether a piece of an array ends within a string: it is not bounded, or it opens with three
marks and does not end with three. -/
def isCutShort (piece : Text) : Bool :=
  let t := trim piece
  !isBounded t ||
    (2 < t.length && t[1]? = t[0]? && t[2]? = t[0]? &&
      t.reverse[1]? != t[0]? && t.reverse[2]? != t[0]?)

/-- A piece and those behind it, each put together with the next ones until it is no longer cut
short. The last one may be. -/
def closePieces (piece : Text) : List Text → Except Flaw (List Text)
  | [] => if isCutShort piece then .error .partMissing else .ok [piece]
  | next :: rest =>
    if isCutShort piece then closePieces (piece ++ ',' :: next) rest
    else
      match rest with
      | [] => .ok [piece, next]
      | _ => do return piece :: (← closePieces next rest)

/-- The pieces of an array whose first item is a string. -/
def stringPieces : List Text → Except Flaw (List Text)
  | piece :: next :: rest => closePieces piece (next :: rest)
  | pieces => .ok pieces

/-- What the next character of an array of inline tables belongs to. -/
structure TableCursor where
  /-- The current table up to the cursor, from its end. -/
  behind : Text
  /-- The number of open braces. -/
  depth : Nat
  /-- Whether a string is open. -/
  inString : Bool := false
  /-- Whether the cursor stands between two tables. -/
  between : Bool := false
  /-- Whether the character behind a table is still to come. -/
  skipping : Bool := false

/-- The inline tables of an array, given the text behind its first character and before its last. -/
def tablePieces (c : TableCursor) : Text → List Text
  | [] => []
  | x :: rest =>
    if c.skipping then tablePieces { c with skipping := false } rest
    else if c.between then
      if x = '\x7b' then tablePieces { c with between := false, behind := [x] } rest
      else tablePieces c rest
    else
      let inString :=
        if isQuote x then (if c.inString then escapedBehind c.behind else true) else c.inString
      let behind := x :: c.behind
      if inString then tablePieces { c with inString, behind } rest
      else if x = '\x7b' then tablePieces { c with inString, behind, depth := c.depth + 1 } rest
      else if x = '\x7d' then
        if 1 < c.depth then tablePieces { c with inString, behind, depth := c.depth - 1 } rest
        else
          behind.reverse ::
            tablePieces { c with inString, between := true, skipping := true } rest
      else tablePieces { c with inString, behind } rest

/-- The pieces of an array of arrays: brackets shield the commas between them. -/
def arrayPieces (depth : Int) (behind : Text) : Text → List Text
  | [] => [behind.reverse]
  | x :: rest =>
    if x = '[' then arrayPieces (depth + 1) (x :: behind) rest
    else if x = ']' then arrayPieces (depth - 1) (x :: behind) rest
    else if x = ',' && depth = 0 then behind.reverse :: arrayPieces depth [] rest
    else arrayPieces depth (x :: behind) rest

/-- The pieces of an array that stand for its items; blank ones stand for none. -/
def pieces (array : Text) : Except Flaw (List Text) :=
  let body := inner 1 array
  let before := body.takeWhile (· != '[')
  if before.length < body.length && (trim before).isEmpty then .ok (arrayPieces 0 [] body)
  else
    let cuts :=
      if (trim body).head? = some '\x7b' then
        match body with
        | [] => []
        | first :: rest =>
          tablePieces { behind := [first], depth := if first = '\x7b' then 1 else 0 } rest
      else splitOn ',' body
    if startsWithString array then stringPieces cuts else .ok cuts

/-- Whether a text can be the value of an entry in an inline table. An empty text cannot be asked.
-/
def isInlineValue (t : Text) : Except Flaw Bool :=
  match t, t.getLast? with
  | first :: _, some last =>
    .ok ((isQuote first && first = last) || first = '-' || first.isDigit || t = "true".toList ||
      t = "false".toList || (first = '[' && last = ']') || (first = '\x7b' && last = '\x7d'))
  | _, _ => .error .characterMissing

/-- Whether a piece of an inline table is a whole entry. -/
def isWholeEntry (piece : Text) : Except Flaw Bool :=
  if piece.contains '=' then isInlineValue (trim ((piece.dropWhile (· != '=')).drop 1))
  else .error .malformed

/-- The entries of an inline table, given the pieces between its commas. A piece whose value is cut
short is put together with the next one. -/
def closeEntries (piece : Text) : List Text → Except Flaw (List Text)
  | [] => do
    if ← isWholeEntry piece then return [piece] else throw .malformed
  | next :: rest => do
    if ← isWholeEntry piece then return piece :: (← closeEntries next rest)
    else closeEntries (piece ++ ',' :: next) rest

/-- The entries of an inline table. -/
def inlineEntries (table : Text) : Except Flaw (List Text) :=
  match splitOn ',' (inner 1 table) with
  | [] => .ok []
  | [piece] => if (trim piece).isEmpty then .ok [] else closeEntries piece []
  | piece :: rest => closeEntries piece rest

/-- Entries added to a table one after the other. One that opens a string over several lines is the
last. -/
def addEntries (read : Bool → Text → Except Flaw Toml) (table : Toml) : List Text → Except Flaw Toml
  | [] => .ok table
  | line :: rest => do
    let (table, pending) ← (← Entry.ofLine line).addTo read table
    match pending with
    | some _ => return table
    | none => addEntries read table rest

/-- Items of one kind. -/
def readItems (read : Text → Except Flaw Toml) (kind : Option Kind) :
    List Text → Except Flaw (List Toml)
  | [] => .ok []
  | piece :: rest =>
    if (trim piece).isEmpty then readItems read kind rest
    else do
      let item ← read (trim piece)
      if kind.any (· ≠ item.kind) then throw .malformed
      return item :: (← readItems read (some item.kind) rest)

/-- The value that a text stands for. The number is that of the calls that the stack has room for:
each array takes two of them, and each inline table three. The flag says whether a numeral is known
to have its zeros and underscores where they may stand. -/
def read : Nat → Bool → Text → Except Flaw Toml
  | _, _, [] => .error .malformed
  | room, plain, first :: rest =>
    let t := first :: rest
    let lower := t.map Char.toLower
    if t = "true".toList then .ok (bool true)
    else if t = "false".toList then .ok (bool false)
    else if lower = "true".toList || lower = "false".toList then .error .malformed
    else if isQuote first then (unquote first t).map string
    else if first = '[' then
      match room with
      | room + 2 => do return array (← readItems (read room true) none (← pieces (trim t)))
      | _ => .error (.beyond .levels)
    else if first = '\x7b' then
      match room with
      | room + 3 => do addEntries (read room) (table []) (← inlineEntries t)
      | _ => .error (.beyond .levels)
    else scalar plain t

end Kudos.Toml
