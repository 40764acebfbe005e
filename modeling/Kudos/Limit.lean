import Kudos.Text.Basic

/-!
# Limits

Some values are refused although nothing is wrong with them. An integer of very many digits can be
computed with, but is neither read from decimal digits nor written in them. Collections inside of
collections are followed only as far as the stack has room for it, whether they are read or written.
-/

namespace Kudos

/-- A limit that a value goes beyond. -/
inductive Overrun where
  /-- An integer has too many decimal digits. They are counted when it is read. -/
  | digits (count : Option Nat)
  /-- Collections are nested too deeply. -/
  | levels
  deriving Repr, DecidableEq

namespace Number

/-- The number of digits beyond which an integer is refused. -/
def mostDigits : Nat := 4300

/-- The number of decimal digits of an integer. -/
def digitCount (n : Int) : Nat :=
  (Text.ofNat n.natAbs).length

/-- An integer in decimal digits, unless there are too many of them. -/
def intText (n : Int) : Except Overrun Text :=
  if mostDigits < digitCount n then .error (.digits none) else .ok (Text.ofInt n)

end Number

namespace Overrun

/-- The wording of a limit. -/
def message : Overrun → Text
  | digits count =>
    "Exceeds the limit (".toList ++ Text.ofNat Number.mostDigits ++
      " digits) for integer string conversion".toList ++
      (match count with
      | some n => ": value has ".toList ++ Text.ofNat n ++ " digits".toList
      | none => []) ++
      "; use sys.set_int_max_str_digits() to increase the limit".toList
  | levels => "maximum recursion depth exceeded".toList

end Overrun

/-- Limits for a value; where there is none, the value may be as large as it likes. -/
structure Limits where
  /-- The number of digits that an integer may have. -/
  digits : Option Nat := none
  /-- The number of levels to which collections may be nested. -/
  levels : Option Nat := none
  deriving Repr, DecidableEq

namespace Limits

/-- The limits where the stack has room for some levels of collections inside of one. -/
def ofRoom (room : Nat) : Limits :=
  ⟨some Number.mostDigits, some (room + 1)⟩

/-- Whether a number of digits is beyond the limit. -/
def excludes (l : Limits) (count : Nat) : Bool :=
  l.digits.any (· < count)

/-- The limits inside a collection; none if it is one too many. -/
def inside? (l : Limits) : Option Limits :=
  match l.levels with
  | none => some l
  | some 0 => none
  | some (n + 1) => some { l with levels := some n }

end Limits

end Kudos
