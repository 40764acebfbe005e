import Kudos.Json.Reader
import Kudos.Record.Sink

/-!
# Identity

The anonymous user id and the survey counter, kept in a state file that holds one JSON object. Every
change reads the file, sets one key and writes the file again, so other keys stay as they are. A
file that cannot be read or holds no object counts as empty; one that is not UTF-8 is a fault, and so
is one that goes beyond a limit.

The counter counts the messages of thanks down; when it is at zero the survey is due and a new
counter is drawn.
-/

namespace Kudos

/-- A stored counter. A stored `true` counts as one, and is shown as it was stored. -/
structure Counter where
  /-- The value. -/
  value : Int
  /-- Whether it was stored as `true`. -/
  storedAsTrue : Bool := false
  deriving Repr, DecidableEq

/-- Where the identity is kept. -/
structure Identity where
  /-- The state file. -/
  path : Path
  /-- Where new users are registered, if anywhere. -/
  sink : Option Sink

namespace Identity

/-- The key of the user id. -/
def idKey : Units := Utf16.encode "id".toList

/-- The key of the counter. -/
def counterKey : Units := Utf16.encode "counter".toList

/-- The collection of new users. -/
def usersCollection : Text := "users".toList

/-- The fields in the state file. -/
def load (i : Identity) : Action (List (Units × Json)) := do
  let h ← get
  if !h.files.contains i.path then return []
  match h.files.read i.path with
  | .error _ =>
    set (h.warn .stateUnreadable)
    return []
  | .ok bytes =>
    match Utf8.decode? bytes with
    | none => throw .badEncoding
    | some text =>
      match Json.read h.limits text with
      | .error .malformed =>
        set (h.warn .stateUnreadable)
        return []
      | .error (.beyond limit) => throw (.beyond limit)
      | .ok value => return value.fields?.getD []

/-- Writes fields to the state file, of which one has changed. The directory is made before the text
of the fields. -/
def store (i : Identity) (key : Units) (fields : List (Units × Json)) : Action Unit := do
  let h ← get
  match h.files.makeDirectories i.path.parent with
  | .error _ => set (h.warn (.stateNotStored (Utf16.decode key)))
  | .ok made =>
    match (Json.object fields).writeWithin h.limits .indented with
    | .error limit =>
      set { h with files := made }
      throw (.beyond limit)
    | .ok text =>
      match made.write i.path (Utf8.encode text) with
      | .ok files => set { h with files }
      | .error _ => set ({ h with files := made }.warn (.stateNotStored (Utf16.decode key)))

/-- Sets one key in the state file. -/
def update (i : Identity) (key : Units) (value : Json) : Action Unit := do
  i.store key (Fields.set key value (← i.load))

/-- The user id. On first use a new one is made, stored and registered. -/
def userId (i : Identity) : Action Text := do
  match Fields.get? (← i.load) idKey with
  | some id => if id.isTruthy then return id.display else register
  | none => register
where
  /-- Makes, stores and registers a new id. -/
  register : Action Text := do
    let id ← modifyGet Host.freshId
    i.update idKey (.ofText id)
    match i.sink with
    | none => return id
    | some sink =>
      modify fun h => sink.submitInBackground usersCollection
        [("userId".toList, .text id), ("timestamp".toList, .time h.now)] h
      return id

/-- The counter in the state file; a random one if there is none or it is zero. -/
def loadCounter (i : Identity) : Action Counter := do
  match Fields.get? (← i.load) counterKey with
  | some (.int n) => if n ≠ 0 then return ⟨n, false⟩ else fresh
  | some (.bool true) => return ⟨1, true⟩
  | _ => fresh
where
  /-- A random counter. -/
  fresh : Action Counter := do
    return ⟨← modifyGet (·.draw 0 4), false⟩

/-- Stores a counter. -/
def saveCounter (i : Identity) (n : Int) : Action Unit :=
  i.update counterKey (.int n)

/-- Counts one message of thanks. The result is the new counter and whether the survey is due. -/
def advanceCounter (i : Identity) (n : Int) : Action (Int × Bool) := do
  if n = 0 then
    let fresh ← modifyGet (·.draw 1 4)
    i.saveCounter fresh
    return (fresh, true)
  else if 0 < n then
    i.saveCounter (n - 1)
    return (n - 1, false)
  else return (n, false)

end Identity

end Kudos
