import Kudos.Text.Basic

/-!
# Paths

A path is a sequence of names below a root, which is the current directory, `/` or `//`. Empty names
and single dots are dropped when a path is read; double dots are kept, since what they lead to is
known only when the path is followed.
-/

namespace Kudos

/-- A path in the form in which it is shown. -/
structure Path where
  /-- The root: empty for the current directory, else one slash or two. -/
  root : Text
  /-- The names below the root. -/
  names : List Text
  deriving Repr, DecidableEq, Inhabited

namespace Path

/-- The names between the slashes of a text, without empty ones and single dots. -/
def namesOf (t : Text) : List Text :=
  (Text.splitOn '/' t).filter fun name => !name.isEmpty && name != ['.']

/-- The path that a text denotes. A root of exactly two slashes is kept apart from one slash. -/
def ofText (t : Text) : Path :=
  let slashes := (t.takeWhile (· == '/')).length
  let root := if slashes = 0 then [] else if slashes = 2 then ['/', '/'] else ['/']
  ⟨root, namesOf t⟩

/-- The path as text; the current directory is a dot. -/
def text (p : Path) : Text :=
  if p.root.isEmpty && p.names.isEmpty then ['.'] else p.root ++ Text.join ['/'] p.names

/-- The last name; empty if there is none. -/
def name (p : Path) : Text :=
  p.names.getLastD []

/-- The path without its last name. -/
def parent (p : Path) : Path :=
  { p with names := p.names.dropLast }

/-- The path of an entry below this one. -/
def child (p : Path) (name : String) : Path :=
  { p with names := p.names ++ [name.toList] }

/-- The extension of the last name with its dot: what follows the last dot, unless that dot is the
first or the last character. -/
def extension (p : Path) : Text :=
  let behind := p.name.reverse.takeWhile (· != '.')
  let before := p.name.length - behind.length
  if 1 < before && !behind.isEmpty then '.' :: behind.reverse else []

/-- Names from the root with each double dot and the name before it removed. -/
def resolveNames (names : List Text) : List Text :=
  (names.foldl
    (fun (up : List Text) name => if name = ['.', '.'] then up.drop 1 else name :: up) []).reverse

end Path

end Kudos
