import Kudos.Toml.Value

/-!
# Reading TOML

A configuration is put together line by line in a `Draft`, which knows the place that entries go to.
A header moves the place and makes the tables on the way; a header in double brackets adds a table
to an array. A table may have a header of its own after one below it has implied it, but no table
has two.
-/

namespace Kudos.Toml

open Text

/-- A step on the way to a place in a value. -/
inductive Step where
  /-- To the value of a key. -/
  | field (name : Text)
  /-- To the last item of an array. -/
  | last
  deriving Repr, DecidableEq

/-- Changes the value at a place. -/
def atPlace {α : Type} (change : Toml → Except Flaw (Toml × α)) :
    List Step → Toml → Except Flaw (Toml × α)
  | [], v => change v
  | .field name :: rest, table fields =>
    match Fields.get? fields name with
    | none => .error .notTable
    | some child => do
      let (child, a) ← atPlace change rest child
      return (table (Fields.set name child fields), a)
  | .last :: rest, array items =>
    match items.getLast? with
    | none => .error .partMissing
    | some item => do
      let (item, a) ← atPlace change rest item
      return (array (items.dropLast ++ [item]), a)
  | _ :: _, _ => .error .notTable

/-- A value with the place of a header in it, and the names of the tables that are implied only. -/
structure Opened where
  /-- The value. -/
  value : Toml
  /-- The way to the place. -/
  place : List Step
  /-- The names of tables that no header has named by itself. -/
  implied : List Text

/-- What a header finds or makes at its last name. -/
def openLast (tables : Bool) (name : Text) (implied : List Text) :
    Option Toml → Except Flaw (Toml × List Text)
  | none => .ok (if tables then array [table []] else table [], implied)
  | some child =>
    if implied.contains name then
      if tables then .error .malformed else .ok (child, implied.erase name)
    else if tables then
      match child with
      | array items => .ok (array (items ++ [table []]), implied)
      | _ => .error .notTable
    else .error .malformed

/-- What a header finds or makes at a name before its last one. -/
def openOuter (name : Text) (implied : List Text) : Option Toml → Toml × List Text
  | none => (table [], implied ++ [name])
  | some child => (child, implied)

/-- What a header finds or makes at a name in the last table of an array. -/
def openInLast (tables isLast : Bool) : Option Toml → Toml
  | none => if tables && isLast then array [table []] else table []
  | some child => child

/-- Goes on from a value. A header in double brackets goes on from the last item of an array. -/
def goOn (tables : Bool) (onward : List Text → Toml → Except Flaw Opened) (implied : List Text)
    (v : Toml) : Except Flaw Opened :=
  match tables, v with
  | true, array items =>
    match items.getLast? with
    | none => .error .partMissing
    | some item => do
      let o ← onward implied item
      return { o with value := array (items.dropLast ++ [o.value]), place := .last :: o.place }
  | true, table _ => onward implied v
  | true, _ => .error .notTable
  | false, _ => onward implied v

/-- Opens the place that the names of a header lead to. -/
def openHeader (tables : Bool) : List Text → List Text → Toml → Except Flaw Opened
  | [], implied, v => .ok ⟨v, [], implied⟩
  | name :: rest, implied, v =>
    if name.isEmpty then .error .malformed
    else
      match v with
      | table fields => do
        let found := Fields.get? fields name
        let (child, implied) ←
          if rest.isEmpty then openLast tables name implied found
          else pure (openOuter name implied found)
        let o ← goOn tables (openHeader tables rest) implied child
        return { o with
          value := table (Fields.set name o.value fields), place := .field name :: o.place }
      | array items =>
        match items.getLast? with
        | none => .error .partMissing
        | some (table fields) => do
          let child := openInLast tables rest.isEmpty (Fields.get? fields name)
          let o ← goOn tables (openHeader tables rest) implied child
          return { o with
            value := array (items.dropLast ++ [table (Fields.set name o.value fields)])
            place := .last :: .field name :: o.place }
        | some _ => .error .notTable
      | _ => .error .notTable

/-- Whether a character may stand in a name without marks. -/
def isBare (c : Char) : Bool :=
  c.isAlphanum || c = '_' || c = '-'

/-- A name in marks put together from the pieces between dots, and the pieces behind it. -/
def closeName (piece : Text) : List Text → Except Flaw (Text × List Text)
  | [] => if isWhole piece then .ok (inner 1 piece, []) else .error .malformed
  | next :: rest =>
    if isWhole piece then .ok (inner 1 piece, next :: rest)
    else closeName (trim (piece ++ '.' :: next)) rest
where
  /-- Whether a name ends with the mark that it starts with. -/
  isWhole (t : Text) : Bool :=
    1 < t.length && t.head? = t.getLast?

/-- The names of a header, given the pieces between its dots and a bound for their number. -/
def headerNames : Nat → List Text → Except Flaw (List Text)
  | _, [] => .ok []
  | 0, _ => .error .malformed
  | fuel + 1, piece :: rest => do
    let t := trim piece
    if t.head?.any isQuote then
      let (name, rest) ← closeName t rest
      return name :: (← headerNames fuel rest)
    else if !t.isEmpty && t.all isBare then return t :: (← headerNames fuel rest)
    else throw .malformed

/-- The names of a header, and whether it is in double brackets. -/
def header (line : Text) : Except Flaw (Bool × List Text) := do
  let tables := (line.drop 1).head? = some '['
  let closing := if tables then [']', ']'] else [']']
  let body := line.drop closing.length
  let cuts := cutsIn closing body
  let parts := cut closing cuts body
  if line.length = 1 || parts.length ≤ cuts || !(trim (parts.getLastD [])).isEmpty then
    throw .malformed
  else
    let names := splitOn '.' (join closing parts.dropLast)
    return (tables, ← headerNames names.length names)

/-- A configuration up to some line. -/
structure Draft where
  /-- The number of calls that the stack has room for when a value is read. -/
  room : Nat
  /-- The configuration. -/
  root : Toml := table []
  /-- The names of tables that no header has named by itself. -/
  implied : List Text := []
  /-- The place that entries go to. -/
  place : List Step := []
  /-- The entry whose value goes on. -/
  pending : Option Pending := none

namespace Draft

/-- Changes the value at the place of a draft. -/
def change (d : Draft) (f : Toml → Except Flaw (Toml × Option Pending)) : Except Flaw Draft := do
  let (root, pending) ← atPlace f d.place d.root
  return { d with root, pending }

/-- Sets a key of a table. -/
def assign (key : Text) (value : Toml) : Toml → Except Flaw (Toml × Option Pending)
  | table fields => .ok (table (Fields.set key value fields), none)
  | _ => .error .notTable

/-- Whether a line ends the value of a pending entry, whose text it is part of. -/
def closes (text line : Text) : Except Flaw Bool :=
  match text with
  | '[' :: _ =>
    match line.getLast? with
    | none => .error .characterMissing
    | some c => .ok (c = ']')
  | text => .ok (2 < line.length && (line.reverse.take 3).all fun c => text.head? = some c)

/-- Adds a line to the value of a pending entry. -/
def continuePending (d : Draft) (p : Pending) (line : Text) : Except Flaw Draft := do
  let text := p.text ++ line
  if ← closes text line then
    let value ← read d.room true text
    d.change (assign p.key value)
  else return { d with pending := some (Entry.toPending p.key text) }

/-- Adds a line outside the values of entries. A line that is neither a header nor an entry does not
count. -/
def addPlain (d : Draft) (line : Text) : Except Flaw Draft :=
  match line with
  | [] => .ok d
  | '[' :: _ => do
    let (tables, names) ← header line
    let o ← openHeader tables names d.implied d.root
    return { d with root := o.value, place := o.place, implied := o.implied }
  | '\x7b' :: _ =>
    if line.getLast? = some '\x7d' then
      d.change fun v => do return (← addEntries (read d.room) v (← inlineEntries line), none)
    else .error .malformed
  | _ =>
    if line.contains '=' then do
      let e ← Entry.ofLine line
      d.change (e.addTo (read d.room))
    else .ok d

/-- Adds a line. -/
def addLine (d : Draft) (line : Text) : Except Flaw Draft :=
  match d.pending with
  | none => d.addPlain (trim line)
  | some p =>
    let line := if p.joined || !p.text.contains '\n' then trim line else line
    if line.isEmpty && p.joined then .ok d else d.continuePending p line

end Draft

/-- The configuration that a text holds, where the stack has room for some calls. -/
def ofText (room : Nat) (t : Text) : Except Flaw Table := do
  let d ← (← lines t).foldlM Draft.addLine { room }
  match d.root with
  | table fields => return fields
  | _ => return []

end Kudos.Toml
