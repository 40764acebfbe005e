import Kudos.Text.Basic

/-!
# Line breaks

The characters that end a line in any script or protocol, of which the newline is only one. A
carriage return with the newline behind it is one break.
-/

namespace Kudos.Text

/-- Whether a character ends a line. -/
def isLineBreak (c : Char) : Bool :=
  let n := c.toNat
  (0x0A ≤ n && n ≤ 0x0D) || (0x1C ≤ n && n ≤ 0x1E) || n = 0x85 || n = 0x2028 || n = 0x2029

/-- A character put in front of the first of some lines. -/
def prependTo (c : Char) : List Text → List Text
  | [] => [[c]]
  | line :: lines => (c :: line) :: lines

/-- The lines of a text, each with the break that ends it; the last one need not have one, and no
line is empty. -/
def splitLines : Text → List Text
  | [] => []
  | '\r' :: '\n' :: rest => ['\r', '\n'] :: splitLines rest
  | c :: rest => if isLineBreak c then [c] :: splitLines rest else prependTo c (splitLines rest)

/-- The first line starts with the character. -/
theorem flatten_prependTo (c : Char) (lines : List Text) :
    (prependTo c lines).flatten = c :: lines.flatten := by
  cases lines <;> simp [prependTo]

/-- The lines of a text make up the text again. -/
theorem flatten_splitLines (t : Text) : (splitLines t).flatten = t := by
  fun_induction splitLines t with
  | case1 => rfl
  | case2 rest ih => simp [ih]
  | case3 c rest _ hc ih => simp [ih]
  | case4 c rest _ hc ih => simp [flatten_prependTo, ih]

/-- The text with each carriage return, and each carriage return before a newline, as a newline. -/
def joinLineBreaks : Text → Text
  | [] => []
  | '\r' :: '\n' :: rest => '\n' :: joinLineBreaks rest
  | c :: rest => (if c = '\r' then '\n' else c) :: joinLineBreaks rest

end Kudos.Text
