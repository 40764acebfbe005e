import Kudos.Toml.Quoted
import Kudos.Toml.Scalar

/-!
# Entries

A line with an equals sign is an entry: a key and the text of its value. A key with dots leads into
tables, which are made when they are missing. The text of a value may go on below its line when it
opens a string in triple marks; the entry is then pending.
-/

namespace Kudos.Toml

open Text

/-- A key with the text of its value. -/
structure Entry where
  /-- The tables that the key leads into. -/
  path : List Text
  /-- The key in the last table. -/
  key : Text
  /-- The text of the value. -/
  value : Text
  /-- Whether a numeral has its zeros and underscores where they may stand. -/
  plain : Bool
  deriving Repr, DecidableEq

/-- An entry whose value goes on below its line. -/
structure Pending where
  /-- The key. -/
  key : Text
  /-- The text of the value so far. -/
  text : Text
  /-- Whether the next line is joined to the text without a newline. -/
  joined : Bool
  deriving Repr, DecidableEq

/-- Whether a text can be the value of an entry as it stands behind an equals sign. A text that
cannot is cut at a further one. -/
def startsValue (t : Text) : Bool :=
  match t with
  | [] => true
  | c :: _ =>
    isIndent c || isQuote c || c = '[' || c = '\x7b' || trim t = "true".toList ||
      trim t = "false".toList || (Number.ofText? t).isSome || (date? t).isSome || (clock? t).isSome

/-- The key and the value of a line, which is cut at as many equals signs as it takes. -/
def cutEntry (line : Text) : Nat → Nat → Bool → Text → Except Flaw (Text × Bool × Text)
  | 0, _, _, _ => .error .malformed
  | fuel + 1, cuts, plain, value =>
    if startsValue value then
      .ok (join ['='] (cut ['='] cuts line).dropLast, plain, value)
    else
      let next := (cut ['='] (cuts + 1) line).getLastD []
      if next = value then .error .malformed
      else cutEntry line fuel (cuts + 1) (plain && isPlainNumeral next) next

/-- The parts of a key between its dots. Dots between marks do not count. -/
def keyParts (key : Text) : List Text :=
  if key.any isQuote then go false (quoteParts key) else splitOn '.' key
where
  /-- The parts of a key, given the parts between its marks. -/
  go : Bool → List Text → List Text
    | _, [] => []
    | true, part :: rest => part :: go false rest
    | false, part :: rest => (splitOn '.' part).map trim ++ go true rest

/-- The tables that a key leads into, and the key in the last one. -/
def keyPath (key : Text) : Except Flaw (List Text × Text) :=
  if key.contains '.' then
    match ((keyParts key).reverse.dropWhile List.isEmpty) with
    | [] => .error .partMissing
    | last :: path => .ok (path.reverse.filter fun name => !name.isEmpty, trim last)
  else
    match key with
    | [] => .error .characterMissing
    | c :: _ =>
      if isQuote c && key.getLast? = some c then do return ([], ← withLetters (inner 1 key))
      else .ok ([], key)

namespace Entry

/-- The entry on a line. -/
def ofLine (line : Text) : Except Flaw Entry := do
  let cuts := cutsIn ['='] line
  let value := (cut ['='] cuts line).getLastD []
  let plain := isPlainNumeral value
  let value := if value.head?.any Char.isDigit then value.filter (· != '_') else value
  let (key, plain, value) ← cutEntry line (line.length + 2) cuts plain value
  let (path, key) ← keyPath (trim key)
  return { path, key, value := trim value, plain }

/-- The last item of an array that is not closed, given the pieces between its commas from their
end. Pieces before one that starts with a mark are put together with it. -/
def lastItem : Text → List Text → Except Flaw Text
  | piece, [] => .ok piece
  | piece, before :: rest =>
    match piece with
    | [] => .error .characterMissing
    | c :: _ => if isQuote c then .ok piece else lastItem (before ++ ',' :: piece) rest

/-- The text in which a string in triple marks may be open: the value, or the last item of an array
that starts with a string and is not closed. -/
def openPart (value : Text) : Except Flaw Text :=
  if value.head? = some '[' && value.getLast? != some ']' &&
      (trim (inner 1 value)).head?.any isQuote then
    match (splitOn ',' (trim (value.drop 1))).reverse with
    | [] => .ok []
    | piece :: before => lastItem piece before
  else .ok value

/-- Whether the value opens a string in triple marks that it does not close. -/
def isOpen (value : Text) : Except Flaw Bool := do
  if value.length < 3 then return false
  match ← openPart value with
  | [] => throw .characterMissing
  | mark :: rest =>
    if !isQuote mark then return false
    match rest with
    | [] => throw .characterMissing
    | second :: rest =>
      if second ≠ mark then return false
      match rest with
      | [] => throw .characterMissing
      | third :: rest =>
        if third ≠ mark then return false
        let ending := (mark :: second :: third :: rest).reverse.take 3
        return !(2 < rest.length && ending.all (· == mark))

/-- The text of a value so far with what joins it to the next line: nothing behind a backslash,
which is taken off, and otherwise a newline. -/
def toPending (key text : Text) : Pending :=
  if endsEscaped text then ⟨key, text.dropLast, true⟩ else ⟨key, text ++ ['\n'], false⟩

/-- Adds an entry to the table that its key leads to, or leaves it pending. -/
def put (read : Bool → Text → Except Flaw Toml) (e : Entry) (v : Toml) :
    Except Flaw (Toml × Option Pending) := do
  let pending := if ← isOpen e.value then some (toPending e.key e.value) else none
  let value? ← if pending.isSome then pure none else (read e.plain e.value).map some
  match v with
  | table fields =>
    if (Fields.get? fields e.key).isSome then throw .malformed
    match value? with
    | none => return (v, pending)
    | some value => return (table (Fields.set e.key value fields), none)
  | _ => throw .malformed

/-- Changes the table at the end of a path of keys, where missing tables are made. -/
def along {α : Type} (change : Toml → Except Flaw (Toml × α)) :
    List Text → Toml → Except Flaw (Toml × α)
  | [], v => change v
  | name :: rest, table fields => do
    let (child, a) ← along change rest ((Fields.get? fields name).getD (table []))
    return (table (Fields.set name child fields), a)
  | _ :: _, _ => .error .notTable

/-- Adds an entry to a table. If its value goes on below, only the tables on its path are made. -/
def addTo (read : Bool → Text → Except Flaw Toml) (e : Entry) (v : Toml) :
    Except Flaw (Toml × Option Pending) :=
  along (e.put read) e.path v

end Entry

end Kudos.Toml
