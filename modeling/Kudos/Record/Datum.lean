import Kudos.Json.Printer
import Kudos.Record.Timestamp

/-!
# Records

What is sent to a collection: a list of named values. Besides what JSON knows, a record may hold
points in time and paths, which are sent as strings.
-/

namespace Kudos

/-- A value in a record. -/
inductive Datum where
  /-- The absence of a value. -/
  | null
  /-- A truth value. -/
  | bool (b : Bool)
  /-- A quantity. -/
  | number (n : Number)
  /-- A text. -/
  | text (t : Text)
  /-- A point in time. -/
  | time (t : Timestamp)
  /-- A path, as it is shown. -/
  | path (t : Text)
  /-- A list of values. -/
  | list (items : List Datum)
  /-- Named values. -/
  | fields (pairs : List (Text × Datum))
  deriving Repr, Inhabited

/-- A record. -/
abbrev Record := List (Text × Datum)

namespace Datum

mutual

/-- The value as it is sent. -/
def toJson : Datum → Json
  | null => .null
  | bool b => .bool b
  | number (.whole n) => .int n
  | number (.real x) => .real x
  | text t => .ofText t
  | time t => .ofText t.iso
  | path t => .ofText t
  | list items => .array (listToJson items)
  | fields pairs => .object (fieldsToJson pairs)

/-- The items of a list as they are sent. -/
def listToJson : List Datum → List Json
  | [] => []
  | v :: rest => toJson v :: listToJson rest

/-- Named values as they are sent. -/
def fieldsToJson : List (Text × Datum) → List (Units × Json)
  | [] => []
  | (k, v) :: rest => (Utf16.encode k, toJson v) :: fieldsToJson rest

end

end Datum

namespace Record

/-- The record as an object. -/
def toJson (r : Record) : Json :=
  .object (Datum.fieldsToJson r)

/-- The record as it is sent to a server. -/
def body (r : Record) : Text :=
  r.toJson.write .spaced

/-- The record with its collection, as an object. The collection is the first field, with the value
that the record itself gives it if it does. -/
def filed (collection : Text) (r : Record) : Json :=
  let collectionField : Text × Datum := ("collection".toList, .text collection)
  let fields : Record := r.foldl (fun fields (k, v) => Fields.set k v fields) [collectionField]
  Record.toJson fields

/-- The record as a line of a file. -/
def line (collection : Text) (r : Record) : Text :=
  (filed collection r).write .spaced

end Record

end Kudos
