import Kudos.Display.Emoji
import Kudos.Display.Styles
import Kudos.Display.Wrap

/-!
# Markup

Messages are written with tags in brackets: `[name]` opens a style, `[/name]` closes the last one of
that name, and `[/]` closes the last one. A tag starts with a lower case letter, `#`, `/` or `@`; a
backslash before it makes it plain text, and so does any other start. What a style looks like does
not matter here: `plain?` is the text that a terminal without colors shows, with names between colons
replaced by pictographs.

Closing what is not open is an error, and so is closing an action whose parameters make no sense.
Which names mean one style, and which parameters make sense, is for the console to say (`Styles`).
-/

namespace Kudos.Markup

open Text Pattern

/-- The characters with which a tag may start. -/
def isTagStart (c : Char) : Bool :=
  ('a' ≤ c && c ≤ 'z') || c = '#' || c = '/' || c = '@'

/-- A tag. Its groups are the backslashes before it and the text in the brackets. -/
def tag : Pattern :=
  group (many (· == '\\')) ++ char '[' ++ group (one isTagStart ++ few (· != '[')) ++ char ']'

/-- A part of a message. -/
inductive Part where
  /-- Text that is shown. -/
  | shown (t : Text)
  /-- The start of a style. -/
  | opened (tag : Tag)
  /-- The end of the style of a name, or of the last one. -/
  | closed (name : Option Text)
  deriving Repr, DecidableEq

/-- The part that the text of a tag stands for; an equals sign ends the name. -/
def partOfTag (t : Text) : Part :=
  let name := t.takeWhile (· != '=')
  match name with
  | '/' :: rest => .closed (if (trim rest).isEmpty then none else some (trim rest))
  | _ => .opened ⟨name, t.drop (name.length + 1)⟩

/-- The text without the backslashes before opening brackets. -/
def unescape : Text → Text
  | [] => []
  | '\\' :: '[' :: rest => '[' :: unescape rest
  | c :: rest => c :: unescape rest

/-- The parts of a tag with backslashes before it: half of them are shown, and if their number is
odd so is the tag. -/
def partsOfMatch (m : Pattern.Match) : List Part :=
  let escapes := (m.groupText 0).length
  let halved := if escapes < 2 then [] else [Part.shown (List.replicate (escapes / 2) '\\')]
  if escapes % 2 = 1 then halved ++ [.shown (m.text.drop escapes)]
  else halved ++ [partOfTag (m.groupText 1)]

/-- The parts of a message, given its tags and the text between them. -/
def weave : List Text → List Pattern.Match → List Part
  | t :: ts, m :: ms => (if t.isEmpty then [] else [.shown t]) ++ partsOfMatch m ++ weave ts ms
  | ts, _ => (ts.filter fun t => !t.isEmpty).map .shown

/-- The parts of a message. -/
def parts (t : Text) : List Part :=
  weave (tag.pieces t) (tag.found t)

/-- Takes the last open tag of a name off the open ones, or the last one of all; none if there is
none. -/
def close? (name : Option Text) : List Tag → Option (Tag × List Tag)
  | [] => none
  | top :: rest =>
    if name.all (· = top.name) then some (top, rest)
    else (close? name rest).map fun (tag, rest) => (tag, top :: rest)

/-- The text that parts show, given the open tags, the last one first; none if a style is closed
that is not open or cannot be closed. -/
def showParts (s : Styles) (opened : List Tag) : List Part → Option Text
  | [] => some []
  | .shown t :: rest => (showParts s opened rest).map (Emoji.replace (unescape t) ++ ·)
  | .opened tag :: rest => showParts s (s.resolve tag :: opened) rest
  | .closed name :: rest =>
    match close? (name.map s.known) opened with
    | none => none
    | some (tag, opened) => if s.closes tag then showParts s opened rest else none

/-- The text that a message shows; none if it closes a style that is not open or cannot be closed. -/
def plain? (s : Styles) (t : Text) : Option Text :=
  (showParts s [] (parts t)).map Wrap.dropControls

/-- A message as it is printed on lines of some cells, each line with its newline. -/
def print? (s : Styles) (width : Nat) (t : Text) : Option Text :=
  (plain? s t).map fun t => (Wrap.lines width t).flatMap (· ++ ['\n'])

end Kudos.Markup
