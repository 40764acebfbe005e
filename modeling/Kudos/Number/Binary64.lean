import Kudos.Text.Basic

/-!
# Double precision numbers

The numbers of the IEEE 754 format binary64, each given by its value: a finite one is
`± mantissa · 2 ^ exponent`. Reading a decimal rounds the exact rational to the nearest such number,
an exact half to the even mantissa. Everything here is arithmetic on integers.

Two ways to write a number are provided. `shortest` has the fewest digits that read back as the same
number, and `general` has at most six significant digits.
-/

namespace Kudos

/-- A double precision number. -/
inductive Binary64 where
  /-- Not a number. -/
  | nan
  /-- An infinity. -/
  | infinity (negative : Bool)
  /-- The number `± mantissa · 2 ^ exponent`. -/
  | finite (negative : Bool) (mantissa : Nat) (exponent : Int)
  deriving Repr, DecidableEq, Inhabited

namespace Binary64

/-- The least exponent of a finite number. -/
def leastExponent : Int := -1074

/-- The greatest exponent of a finite number. -/
def greatestExponent : Int := 971

/-- The number of binary digits of a mantissa. -/
def precision : Nat := 53

/-- Zero with a sign. -/
def zero (negative : Bool) : Binary64 :=
  finite negative 0 leastExponent

/-- Whether the number is zero, of either sign. -/
def isZero : Binary64 → Bool
  | finite _ 0 _ => true
  | _ => false

/-- The quotient rounded to the nearest integer, an exact half to the even one. -/
def roundQuotient (num den : Nat) : Nat :=
  let q := num / den
  let r := num % den
  if den < 2 * r || (2 * r = den && q % 2 = 1) then q + 1 else q

/-- The fraction `num / (den · base ^ e)` as a numerator and a denominator. -/
def scaleDown (base num den : Nat) (e : Int) : Nat × Nat :=
  if 0 ≤ e then (num, den * Nat.pow base e.toNat) else (num * Nat.pow base (-e).toNat, den)

/-- The greatest `k` with `2 ^ k ≤ num / den`, for positive numbers. -/
def binaryOrder (num den : Nat) : Int :=
  let guess : Int := (Nat.log2 num : Int) - (Nat.log2 den : Int)
  let (n, d) := scaleDown 2 num den guess
  if d ≤ n then guess else guess - 1

/-- The number nearest to `± num / den`. -/
def ofRatio (negative : Bool) (num den : Nat) : Binary64 :=
  if num = 0 then zero negative
  else
    let exponent := max (binaryOrder num den - (precision - 1)) leastExponent
    let (n, d) := scaleDown 2 num den exponent
    let mantissa := roundQuotient n d
    let (mantissa, exponent) :=
      if mantissa = Nat.pow 2 precision then (Nat.pow 2 (precision - 1), exponent + 1)
      else (mantissa, exponent)
    if greatestExponent < exponent then infinity negative else finite negative mantissa exponent

/-- The number nearest to `± digits · 10 ^ exponent`. Exponents far outside the range of the format
are settled without computing the power. -/
def ofDecimal (negative : Bool) (digits : Nat) (exponent : Int) : Binary64 :=
  let order : Int := (Text.ofNat digits).length + exponent
  if digits = 0 || order < -400 then zero negative
  else if 400 < order then infinity negative
  else
    let (num, den) := scaleDown 10 digits 1 (-exponent)
    ofRatio negative num den

/-- The number nearest to an integer; none when the integer is too large for a finite one. -/
def ofInt? (n : Int) : Option Binary64 :=
  match ofRatio (decide (n < 0)) n.natAbs 1 with
  | infinity _ => none
  | x => some x

/-- A positive decimal `0.d₁d₂… · 10 ^ point` by its digits; the last digit is not zero. -/
structure Digits where
  /-- The digits. -/
  digits : Text
  /-- The number of digits before the decimal point. -/
  point : Int
  deriving Repr, DecidableEq

namespace Digits

/-- The digits of `n · 10 ^ exponent`, without zeros at the end. -/
def ofScaled (n : Nat) (exponent : Int) : Digits :=
  let ds := Text.ofNat n
  ⟨Text.dropRightWhile (· == '0') ds, ds.length + exponent⟩

end Digits

/-- The number of digits before the decimal point of a positive fraction: the least `p` with
`num / den < 10 ^ p`. Fractions of the format exceed `10 ^ (-400)`. -/
def decimalOrder (num den : Nat) : Int :=
  (Text.ofNat (num * Nat.pow 10 400 / den)).length - 400

/-- A finite number as a fraction. -/
def fraction (mantissa : Nat) (exponent : Int) : Nat × Nat :=
  scaleDown 2 mantissa 1 (-exponent)

/-- Of the two neighbours of `num / den` among the multiples of `10 ^ e`, the nearer one that reads
back as `x`, if one does; of two equally near ones the even one. -/
def neighbour? (x : Binary64) (num den : Nat) (e : Int) : Option Nat :=
  let (n, d) := scaleDown 10 num den e
  let low := n / d
  let near := roundQuotient n d
  let far := if near = low then low + 1 else low
  [near, far].find? fun k => ofDecimal false k e = x

/-- The digits of a positive number that are fewest among those which read back, trying counts
upwards from `count` for at most `fuel` counts. -/
def fewestDigits (x : Binary64) (num den : Nat) (order : Int) : Nat → Int → Digits
  | 0, count => .ofScaled (roundQuotient (scaleDown 10 num den (order - count)).1
      (scaleDown 10 num den (order - count)).2) (order - count)
  | fuel + 1, count =>
    match neighbour? x num den (order - count) with
    | some k => .ofScaled k (order - count)
    | none => fewestDigits x num den order fuel (count + 1)

/-- The fewest digits that read back as the number `mantissa · 2 ^ exponent`. Seventeen digits
always do. -/
def shortestDigits (mantissa : Nat) (exponent : Int) : Digits :=
  let (num, den) := fraction mantissa exponent
  fewestDigits (finite false mantissa exponent) num den (decimalOrder num den) 16 1

/-- The number rounded to a count of significant digits. -/
def roundedDigits (count : Nat) (mantissa : Nat) (exponent : Int) : Digits :=
  let (num, den) := fraction mantissa exponent
  let e := decimalOrder num den - count
  let (n, d) := scaleDown 10 num den e
  .ofScaled (roundQuotient n d) e

/-- How digits are laid out as text. -/
structure Layout where
  /-- Numbers from this power of ten on are written with an exponent. -/
  positionalBelow : Int
  /-- Whether a whole number is written with `.0`. -/
  keepsPoint : Bool

/-- Numbers below `0.0001` or from `10 ^ 16` on are written with an exponent, and a whole number
shows that it is not an integer. -/
def shortestLayout : Layout := ⟨16, true⟩

/-- Numbers below `0.0001` or of more than six digits are written with an exponent. -/
def generalLayout : Layout := ⟨6, false⟩

/-- An exponent with its sign and at least two digits. -/
def exponentText (e : Int) : Text :=
  (if e < 0 then '-' else '+') :: Text.padLeft 2 '0' (Text.ofNat e.natAbs)

/-- Digits as text. -/
def Layout.write (l : Layout) (ds : Digits) : Text :=
  let exponent := ds.point - 1
  if -4 ≤ exponent && exponent < l.positionalBelow then
    if ds.point ≤ 0 then
      ['0', '.'] ++ List.replicate (-ds.point).toNat '0' ++ ds.digits
    else
      let whole := ds.digits.take ds.point.toNat
      let padded := whole ++ List.replicate (ds.point.toNat - whole.length) '0'
      match ds.digits.drop ds.point.toNat with
      | [] => if l.keepsPoint then padded ++ ['.', '0'] else padded
      | part => padded ++ '.' :: part
  else
    match ds.digits with
    | [] => []
    | [d] => d :: 'e' :: exponentText exponent
    | d :: part => d :: '.' :: part ++ 'e' :: exponentText exponent

/-- A number as text, given the digits of a positive one. -/
def write (l : Layout) (digitsOf : Nat → Int → Digits) : Binary64 → Text
  | nan => "nan".toList
  | infinity negative => (if negative then ['-'] else []) ++ "inf".toList
  | finite negative 0 _ =>
    (if negative then ['-'] else []) ++ if l.keepsPoint then "0.0".toList else ['0']
  | finite negative mantissa exponent =>
    (if negative then ['-'] else []) ++ l.write (digitsOf mantissa exponent)

/-- The text with the fewest digits that reads back as the number. -/
def shortest : Binary64 → Text :=
  write shortestLayout shortestDigits

/-- The text with at most six significant digits. -/
def general : Binary64 → Text :=
  write generalLayout (roundedDigits 6)

end Binary64

/-- A quantity that was given as an integer or as a double precision number, and is shown as it was
given. -/
inductive Number where
  /-- An integer. -/
  | whole (n : Int)
  /-- A double precision number. -/
  | real (x : Binary64)
  deriving Repr, DecidableEq, Inhabited

namespace Number

/-- The double precision number nearest to a quantity, if the quantity is not too large. -/
def toBinary64? : Number → Option Binary64
  | whole n => Binary64.ofInt? n
  | real x => some x

/-- Whether the quantity is zero. -/
def isZero : Number → Bool
  | whole n => n = 0
  | real x => x.isZero

end Number

end Kudos
