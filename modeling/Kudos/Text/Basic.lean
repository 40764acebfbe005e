import Kudos.Ascending

/-!
# Text

Everything this library reads is a list of characters. Offsets and lengths count characters, and
every rule below is a recursion on that list, so that a statement about a text is a statement about
its characters. `String` appears where literals are written and at the edge of the program.

The words used throughout: a text is *blank-trimmed* by `trim`, *cut* at a separator by `splitOn`,
and one text *occurs* in another when `occursIn` finds it.
-/

namespace Kudos

/-- A text is the list of its characters. -/
abbrev Text := List Char

namespace Text

/-- The white space characters: the ASCII controls from tab to carriage return and from the file
separator to the unit separator, the space, and the Unicode spaces and line separators. The zero
width space and the byte order mark are not among them. -/
def isBlank (c : Char) : Bool :=
  let n := c.toNat
  (0x09 ≤ n && n ≤ 0x0D) || (0x1C ≤ n && n ≤ 0x20) || n = 0x85 || n = 0xA0 || n = 0x1680 ||
    (0x2000 ≤ n && n ≤ 0x200A) || n = 0x2028 || n = 0x2029 || n = 0x202F || n = 0x205F ||
    n = 0x3000

/-- A space or a tab: the blanks that may stand inside one line of source code. -/
def isIndent (c : Char) : Bool :=
  c = ' ' || c = '\t'

/-- The text without the characters of a class at its right end. -/
def dropRightWhile (p : Char → Bool) (t : Text) : Text :=
  (t.reverse.dropWhile p).reverse

/-- The text without white space at its ends. -/
def trim (t : Text) : Text :=
  dropRightWhile isBlank (t.dropWhile isBlank)

/-- Whether one text stands at the start of another. -/
def startsWith (t start : Text) : Bool :=
  start.isPrefixOf t

/-- Whether one text stands somewhere in another. -/
def occursIn (needle : Text) : Text → Bool
  | [] => needle.isEmpty
  | c :: rest => needle.isPrefixOf (c :: rest) || occursIn needle rest

/-- The pieces of a text between the occurrences of one character; never an empty list. -/
def splitOn (separator : Char) : Text → List Text
  | [] => [[]]
  | c :: rest =>
    if c = separator then [] :: splitOn separator rest
    else
      match splitOn separator rest with
      | [] => [[c]]
      | piece :: pieces => (c :: piece) :: pieces

/-- There is always a first piece. -/
theorem splitOn_ne_nil (separator : Char) (t : Text) : splitOn separator t ≠ [] := by
  cases t with
  | nil => simp [splitOn]
  | cons c t =>
    unfold splitOn
    split
    · simp
    · split <;> simp

/-- No piece holds the separator. -/
theorem not_mem_of_mem_splitOn {separator : Char} {t piece : Text}
    (h : piece ∈ splitOn separator t) : separator ∉ piece := by
  induction t generalizing piece with
  | nil => simp_all [splitOn]
  | cons c t ih =>
    obtain ⟨first, pieces, hp⟩ := List.exists_cons_of_ne_nil (splitOn_ne_nil separator t)
    rw [hp] at ih
    by_cases hc : c = separator
    · simp only [splitOn, hc, ↓reduceIte, List.mem_cons, hp] at h
      rcases h with rfl | h
      · simp
      · exact ih (List.mem_cons.mpr h)
    · simp only [splitOn, hc, ↓reduceIte, hp, List.mem_cons] at h
      rcases h with rfl | h
      · simpa [Ne.symm hc] using ih (List.mem_cons_self ..)
      · exact ih (List.mem_cons_of_mem _ h)

/-- Pieces put together with a separator between neighbours. -/
def join (separator : Text) : List Text → Text
  | [] => []
  | [piece] => piece
  | piece :: pieces => piece ++ separator ++ join separator pieces

/-- A natural number in decimal digits. -/
def ofNat (n : Nat) : Text :=
  Nat.toDigits 10 n

/-- An integer in decimal digits, with a minus sign when it is negative. -/
def ofInt : Int → Text
  | .ofNat n => ofNat n
  | .negSucc n => '-' :: ofNat (n + 1)

/-- A text padded with a character on the left to a least width. -/
def padLeft (width : Nat) (fill : Char) (t : Text) : Text :=
  List.replicate (width - t.length) fill ++ t

/-- Whether a code point lies in one of the closed ranges of a table. -/
def inRanges (ranges : List (Nat × Nat)) (c : Char) : Bool :=
  ranges.any fun (first, last) => first ≤ c.toNat && c.toNat ≤ last

/-- The order of texts by code points, a proper initial part first. -/
def precedes : Text → Text → Bool
  | [], _ => true
  | _ :: _, [] => false
  | a :: as, b :: bs => a.toNat < b.toNat || (a = b && precedes as bs)

/-- Of two texts one precedes the other. -/
theorem precedes_total (a b : Text) : precedes a b || precedes b a := by
  induction a generalizing b with
  | nil => simp [precedes]
  | cons x a ih =>
    cases b with
    | nil => simp [precedes]
    | cons y b =>
      rcases Nat.lt_trichotomy x.toNat y.toNat with h | h | h
      · simp [precedes, h]
      · obtain rfl : x = y := Char.toNat_inj.mp h
        simpa [precedes] using ih b
      · simp [precedes, h]

/-- What precedes a text precedes the texts behind it. -/
theorem precedes_trans (a b c : Text) (hab : precedes a b) (hbc : precedes b c) :
    precedes a c := by
  induction a generalizing b c with
  | nil => simp [precedes]
  | cons x a ih =>
    cases b with
    | nil => simp [precedes] at hab
    | cons y b =>
      cases c with
      | nil => simp [precedes] at hbc
      | cons z c =>
        simp only [precedes, Bool.or_eq_true, decide_eq_true_eq, Bool.and_eq_true] at *
        rcases hab with h | ⟨rfl, h⟩ <;> rcases hbc with h' | ⟨rfl, h'⟩
        · exact .inl (Nat.lt_trans h h')
        · exact .inl h
        · exact .inl h'
        · exact .inr ⟨rfl, ih _ _ h h'⟩

/-- The distinct texts of a list in ascending order. -/
def sortDistinct (ts : List Text) : List Text :=
  Ascending.ofList precedes ts

end Text

end Kudos
