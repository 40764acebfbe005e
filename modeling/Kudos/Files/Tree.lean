import Kudos.Files.Path

/-!
# File trees

The files and directories that a program finds, and the place of the current directory among them.
An entry is found by following the names of a path one after the other, from the root or from the
current directory; above the root lies the root itself.
-/

namespace Kudos

/-- Why a file operation fails. -/
inductive FileError where
  /-- There is no such entry. -/
  | notFound
  /-- The entry is a directory. -/
  | isDirectory
  /-- An entry on the way is not a directory. -/
  | notDirectory
  /-- An entry of another kind is in the way. -/
  | exists
  deriving Repr, DecidableEq

/-- An entry of a file tree. -/
inductive FileNode where
  /-- A file with its bytes. -/
  | file (bytes : List UInt8)
  /-- A directory. -/
  | directory
  deriving Repr, DecidableEq

/-- The entries of a file system, by the names that lead to them. -/
structure FileTree where
  /-- The names that lead from the root to the current directory. -/
  directory : List Text := []
  /-- The entries; each stands for the names that lead to it from the root. -/
  entries : List (List Text × FileNode) := []
  deriving Repr, Inhabited

namespace FileTree

/-- The entry at the end of names without double dots; the root is always there. -/
def node? (t : FileTree) (place : List Text) : Option FileNode :=
  if place.isEmpty then some .directory
  else (t.entries.find? fun e => e.1 = place).map (·.2)

/-- Follows names from a place. The place that is reached is returned when everything before its
last name is a directory, whether or not there is an entry at its end. -/
def follow (t : FileTree) : List Text → List Text → Except FileError (List Text)
  | place, [] => .ok place
  | place, name :: names =>
    match t.node? place with
    | none => .error .notFound
    | some (.file _) => .error .notDirectory
    | some .directory =>
      t.follow (if name = ['.', '.'] then place.dropLast else place ++ [name]) names

/-- The place that a path starts from. -/
def start (t : FileTree) (p : Path) : List Text :=
  if p.root.isEmpty then t.directory else []

/-- The place that a path leads to. -/
def locate (t : FileTree) (p : Path) : Except FileError (List Text) :=
  t.follow (t.start p) p.names

/-- The path from the root, without double dots. -/
def resolve (t : FileTree) (p : Path) : Path :=
  ⟨if p.root.isEmpty then ['/'] else p.root, Path.resolveNames (t.start p ++ p.names)⟩

/-- The entry that a path leads to. -/
def lookup (t : FileTree) (p : Path) : Except FileError FileNode := do
  let place ← t.locate p
  match t.node? place with
  | some node => .ok node
  | none => .error .notFound

/-- Whether a path leads to an entry. -/
def contains (t : FileTree) (p : Path) : Bool :=
  match t.lookup p with
  | .ok _ => true
  | .error _ => false

/-- The bytes of the file at a path. -/
def read (t : FileTree) (p : Path) : Except FileError (List UInt8) := do
  match ← t.lookup p with
  | .file bytes => .ok bytes
  | .directory => .error .isDirectory

/-- The tree with an entry at a place. -/
def put (t : FileTree) (place : List Text) (node : FileNode) : FileTree :=
  { t with entries := (place, node) :: t.entries.filter fun e => e.1 ≠ place }

/-- The tree with a file at a path whose directory exists. -/
def write (t : FileTree) (p : Path) (bytes : List UInt8) : Except FileError FileTree := do
  let place ← t.locate p
  match t.node? place with
  | some .directory => .error .isDirectory
  | _ => .ok (t.put place (.file bytes))

/-- The tree with bytes added at the end of the file at a path, which is made if it is missing. -/
def append (t : FileTree) (p : Path) (bytes : List UInt8) : Except FileError FileTree := do
  let place ← t.locate p
  match t.node? place with
  | some .directory => .error .isDirectory
  | some (.file old) => .ok (t.put place (.file (old ++ bytes)))
  | none => .ok (t.put place (.file bytes))

/-- The tree without the file at a path. -/
def delete (t : FileTree) (p : Path) : Except FileError FileTree := do
  let place ← t.locate p
  match t.node? place with
  | none => .error .notFound
  | some .directory => .error .isDirectory
  | some (.file _) => .ok { t with entries := t.entries.filter fun e => e.1 ≠ place }

/-- Follows names from a place and makes the directories that are missing. -/
def makeFrom (t : FileTree) : List Text → List Text → Except FileError FileTree
  | _, [] => .ok t
  | place, name :: names =>
    if name = ['.', '.'] then t.makeFrom place.dropLast names
    else
      let next := place ++ [name]
      match t.node? next with
      | some .directory => t.makeFrom next names
      | some (.file _) => .error (if names.isEmpty then .exists else .notDirectory)
      | none => (t.put next .directory).makeFrom next names

/-- The tree with a directory at a path, and the directories on the way to it. -/
def makeDirectories (t : FileTree) (p : Path) : Except FileError FileTree :=
  t.makeFrom (t.start p) p.names

/-- The tree with a file at a path, and the directories on the way to it. -/
def store (t : FileTree) (p : Path) (bytes : List UInt8) : Except FileError FileTree := do
  let t ← t.makeDirectories p.parent
  t.write p bytes

end FileTree

end Kudos
