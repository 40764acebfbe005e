import Kudos.Text.Word

/-!
# Patterns

A small language of text patterns in which the shapes of import statements are written. A pattern is
matched by backtracking: every repetition has an order in which it tries its lengths, every choice
tries its left side first, and the first way to complete the whole pattern is the match. Repetitions
repeat a class of single characters, which is all that the statement shapes need, so matching is a
recursion on the pattern and on the text and always ends.

`Pattern.tryWith` runs a pattern at a place in a text and hands each way to a continuation until the
continuation accepts one. `Pattern.matchAt`, `search`, `found` and `pieces` are the uses made of it:
the first way at one place, the leftmost match, all matches from left to right, and the text between
them.
-/

namespace Kudos

open Text (isWord)

/-- A text pattern. -/
inductive Pattern where
  /-- One character of a class. -/
  | one (p : Char → Bool)
  /-- Exactly these characters. -/
  | literal (t : Text)
  /-- As many characters of a class as possible, and fewer when the rest does not match. -/
  | many (p : Char → Bool)
  /-- As few characters of a class as possible, and more when the rest does not match. -/
  | few (p : Char → Bool)
  /-- One pattern after the other. -/
  | andThen (a b : Pattern)
  /-- The first pattern or else the second. -/
  | orElse (a b : Pattern)
  /-- A pattern whose matched text is kept. -/
  | group (a : Pattern)
  /-- The start of the text or the place behind a newline. -/
  | lineStart
  /-- A place with a word character on exactly one side. -/
  | wordEdge

namespace Pattern

instance : Append Pattern := ⟨andThen⟩

instance : OrElse Pattern := ⟨fun a b => orElse a (b ())⟩

/-- At least one character of a class, as many as possible. -/
def many1 (p : Char → Bool) : Pattern :=
  one p ++ many p

/-- The pattern, or nothing when it does not match. -/
def optional (a : Pattern) : Pattern :=
  orElse a (literal [])

/-- A pattern that matches nowhere. -/
def never : Pattern :=
  one fun _ => false

/-- The first of several patterns that matches. -/
def firstOf : List Pattern → Pattern
  | [] => never
  | [a] => a
  | a :: as => orElse a (firstOf as)

/-- One given character. -/
def char (c : Char) : Pattern :=
  one (· == c)

/-- The characters of a string literal. -/
def word (s : String) : Pattern :=
  literal s.toList

/-- A place in a text: the character before it, the text from it on, and the texts of the groups
matched so far in the order in which they were completed. -/
structure Cursor where
  /-- The character before this place; none at the start of the text. -/
  before : Option Char
  /-- The text from this place on. -/
  rest : Text
  /-- The texts of the completed groups. -/
  groups : List Text := []
  deriving Repr, DecidableEq

namespace Cursor

/-- The start of a text. -/
def start (t : Text) : Cursor :=
  ⟨none, t, []⟩

/-- Whether this place starts a line. -/
def atLineStart (c : Cursor) : Bool :=
  c.before = none || c.before = some '\n'

/-- Whether exactly one of the characters around this place is a word character. -/
def atWordEdge (c : Cursor) : Bool :=
  c.before.any isWord != c.rest.head?.any isWord

/-- The text between this place and a later one. -/
def upTo (c d : Cursor) : Text :=
  c.rest.take (c.rest.length - d.rest.length)

/-- The place behind these characters, if they come next. -/
def skip? (c : Cursor) : Text → Option Cursor
  | [] => some c
  | x :: t =>
    match c.rest with
    | [] => none
    | y :: rest => if x = y then skip? { c with before := some y, rest } t else none

end Cursor

variable {α : Type}

/-- Offers to a continuation the places behind ever shorter runs of a class, the longest first. -/
def runLongest (p : Char → Bool) (groups : List Text) (k : Cursor → Option α) :
    Option Char → Text → Option α
  | before, [] => k ⟨before, [], groups⟩
  | before, c :: rest =>
    if p c then
      (runLongest p groups k (some c) rest).or (k ⟨before, c :: rest, groups⟩)
    else k ⟨before, c :: rest, groups⟩

/-- Offers to a continuation the places behind ever longer runs of a class, the empty one first. -/
def runShortest (p : Char → Bool) (groups : List Text) (k : Cursor → Option α) :
    Option Char → Text → Option α
  | before, [] => k ⟨before, [], groups⟩
  | before, c :: rest =>
    match k ⟨before, c :: rest, groups⟩ with
    | some a => some a
    | none => if p c then runShortest p groups k (some c) rest else none

/-- Offers to a continuation the places at which the pattern can end when it starts at a place, in
the order in which backtracking reaches them, until the continuation accepts one. -/
def tryWith : Pattern → Cursor → (Cursor → Option α) → Option α
  | one p, c, k =>
    match c.rest with
    | [] => none
    | x :: rest => if p x then k { c with before := some x, rest } else none
  | literal t, c, k => (c.skip? t).bind k
  | many p, c, k => runLongest p c.groups k c.before c.rest
  | few p, c, k => runShortest p c.groups k c.before c.rest
  | andThen a b, c, k => a.tryWith c fun d => b.tryWith d k
  | orElse a b, c, k =>
    match a.tryWith c k with
    | some r => some r
    | none => b.tryWith c k
  | group a, c, k => a.tryWith c fun d => k { d with groups := d.groups ++ [c.upTo d] }
  | lineStart, c, k => if c.atLineStart then k c else none
  | wordEdge, c, k => if c.atWordEdge then k c else none

/-- The end of the first way to match the pattern at a place. -/
def matchAt (a : Pattern) (c : Cursor) : Option Cursor :=
  a.tryWith c some

/-- A match: where it starts, the text it covers, and the texts of its groups. -/
structure Match where
  /-- The number of characters before the match. -/
  start : Nat
  /-- The matched text. -/
  text : Text
  /-- The texts of the groups, in the order in which they end. -/
  groups : List Text
  deriving Repr, DecidableEq

namespace Match

/-- The number of characters before the end of the match. -/
def stop (m : Match) : Nat :=
  m.start + m.text.length

/-- The text of a group, empty when there is no such group. -/
def groupText (m : Match) (i : Nat) : Text :=
  m.groups.getD i []

end Match

/-- The match at a place that has `offset` characters before it. -/
def matchHere (a : Pattern) (before : Option Char) (rest : Text) (offset : Nat) : Option Match :=
  let c : Cursor := ⟨before, rest, []⟩
  (a.matchAt c).map fun d => ⟨offset, c.upTo d, d.groups⟩

/-- The leftmost match from a place on. -/
def searchFrom (a : Pattern) (before : Option Char) : Text → Nat → Option Match
  | [], offset => a.matchHere before [] offset
  | c :: rest, offset =>
    match a.matchHere before (c :: rest) offset with
    | some m => some m
    | none => a.searchFrom (some c) rest (offset + 1)

/-- The leftmost match in a text. -/
def search (a : Pattern) (t : Text) : Option Match :=
  a.searchFrom none t 0

/-- The matches from a place on, after `skip` further characters have been passed over. A match
covers at least one character, and the next one starts at its end or later. -/
def foundFrom (a : Pattern) (before : Option Char) : Text → Nat → Nat → List Match
  | [], _, _ => []
  | c :: rest, offset, skip + 1 => a.foundFrom (some c) rest (offset + 1) skip
  | c :: rest, offset, 0 =>
    match a.matchHere before (c :: rest) offset with
    | some m =>
      match m.text.length with
      | 0 => a.foundFrom (some c) rest (offset + 1) 0
      | n + 1 => m :: a.foundFrom (some c) rest (offset + 1) n
    | none => a.foundFrom (some c) rest (offset + 1) 0

/-- The non-empty matches in a text from left to right, no two of them overlapping. -/
def found (a : Pattern) (t : Text) : List Match :=
  a.foundFrom none t 0 0

/-- The match at the start of a text. -/
def matchStart (a : Pattern) (t : Text) : Option Match :=
  a.matchHere none t 0

/-- The text before, between and after given matches, of which the first `offset` characters have
been passed. -/
def between (t : Text) (offset : Nat) : List Match → List Text
  | [] => [t]
  | m :: ms => t.take (m.start - offset) :: between (t.drop (m.stop - offset)) m.stop ms

/-- The pieces of a text that its matches leave, one more than there are matches. -/
def pieces (a : Pattern) (t : Text) : List Text :=
  between t 0 (a.found t)

/-- The text before the first match and the text behind it. -/
def cut (a : Pattern) (t : Text) : Option (Text × Text) :=
  (a.found t).head?.map fun m => (t.take m.start, t.drop m.stop)

end Pattern

end Kudos
