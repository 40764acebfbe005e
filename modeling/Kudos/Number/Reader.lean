import Kudos.Limit
import Kudos.Number.Binary64
import Kudos.Text.Digit

/-!
# Reading numbers

A decimal numeral as people type it: blanks around it, a sign, digits of any script with single
underscores between them, a fraction and an exponent, or a name of infinity or of not-a-number in
any case.
-/

namespace Kudos.Number

open Text

/-- The value of a list of decimal digits. -/
def digitsValue (ds : List Nat) : Nat :=
  ds.foldl (fun n d => 10 * n + d) 0

/-- The digits at the start of a text and the rest. Behind a digit, an underscore that stands before
another digit is skipped. -/
def digitsFrom (behindDigit : Bool) : Text → List Nat × Text
  | [] => ([], [])
  | c :: rest =>
    match digitValue? c with
    | some d =>
      let (ds, rest) := digitsFrom true rest
      (d :: ds, rest)
    | none =>
      if behindDigit && c = '_' && (rest.head?.bind digitValue?).isSome then digitsFrom false rest
      else ([], c :: rest)

/-- The digits at the start of a text and the rest. -/
def leadingDigits (t : Text) : List Nat × Text :=
  digitsFrom false t

/-- A sign at the start of a text, and the rest. -/
def leadingSign : Text → Bool × Text
  | '-' :: rest => (true, rest)
  | '+' :: rest => (false, rest)
  | t => (false, t)

/-- The exponent that a text consists of, zero for an empty text. -/
def exponent? : Text → Option Int
  | [] => some 0
  | c :: t =>
    if c = 'e' || c = 'E' then
      let (negative, t) := leadingSign t
      match leadingDigits t with
      | ([], _) => none
      | (ds, []) => some (if negative then -(digitsValue ds : Int) else digitsValue ds)
      | _ => none
    else none

/-- The integer that a text denotes. -/
def integer? (t : Text) : Option Int :=
  let (negative, t) := leadingSign (trim t)
  match leadingDigits t with
  | (ds, []) =>
    if ds.isEmpty || mostDigits < ds.length then none
    else some (if negative then -(digitsValue ds : Int) else digitsValue ds)
  | _ => none

/-- The number that a numeral without blanks and sign denotes. -/
def unsigned? (negative : Bool) (t : Text) : Option Binary64 :=
  let lower := t.map Char.toLower
  if lower = "inf".toList || lower = "infinity".toList then some (.infinity negative)
  else if lower = "nan".toList then some .nan
  else
    let (before, t) := leadingDigits t
    let (behind, t) :=
      match t with
      | '.' :: t' => leadingDigits t'
      | _ => ([], t)
    if before.isEmpty && behind.isEmpty then none
    else
      (exponent? t).map fun e =>
        .ofDecimal negative (digitsValue (before ++ behind)) (e - behind.length)

/-- The number that a text denotes. -/
def ofText? (t : Text) : Option Binary64 :=
  let (negative, t) := leadingSign (trim t)
  unsigned? negative t

end Kudos.Number
