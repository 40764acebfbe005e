import Kudos.Number.Reader
import Kudos.Toml.Cut

/-!
# Numbers and points in time

The values that are written without marks or brackets. A date stands in columns of fixed width, so
the characters between them do not matter; a time of day starts with `hh:mm:ss`.
-/

namespace Kudos.Toml

open Text

/-- The characters of a text from one place up to another. -/
def columns (start stop : Nat) (t : Text) : Text :=
  (t.drop start).take (stop - start)

/-- The number in some columns of a text. -/
def number? (start stop : Nat) (t : Text) : Option Nat :=
  match Number.integer? (columns start stop t) with
  | some (.ofNat n) => some n
  | _ => none

/-- The seconds by which a zone is ahead of universal time. -/
def zone? (t : Text) : Option Int :=
  if t = ['Z'] then some 0
  else do
    let hours ← Number.integer? (columns 1 3 t)
    let minutes ← Number.integer? (columns 4 6 t)
    let seconds := 3600 * hours + 60 * minutes
    return if t.head? = some '-' then -seconds else seconds

/-- The zone behind the fraction of a second, if there is one, and the fraction before it. -/
def cutZone (t : Text) : Text × Option Text :=
  if t.getLast?.any fun c => c = 'Z' || c = 'z' then (t.dropLast, some ['Z'])
  else
    let sign := if t.contains '+' then '+' else '-'
    let part := t.takeWhile (· != sign)
    let zone := t.drop part.length
    (part, if zone.isEmpty then none else some zone)

/-- The millionths of a second that a fraction denotes. -/
def micro? (t : Text) : Option Int := do
  let n ← Number.integer? t
  return if t.length ≤ 6 then n * Int.ofNat (Nat.pow 10 (6 - t.length))
    else n.tdiv (Int.ofNat (Nat.pow 10 (t.length - 6)))

/-- The millionths of a second and the zone behind the seconds of a date. If one of them cannot be
read, both count as absent. -/
def behindSeconds (t : Text) : Int × Option Int :=
  match t with
  | [] => (0, none)
  | '.' :: t =>
    let (part, zone) := cutZone t
    match zone.mapM zone?, micro? part with
    | some offset, some micro => (micro, offset)
    | _, _ => (0, none)
  | t => (0, zone? t)

/-- The date, perhaps with a time of day, that a text denotes. -/
def date? (t : Text) : Option Toml := do
  if !(t.drop 1).contains '-' then none
  else
    let day ← Date.of? (← number? 0 4 t) (← number? 5 7 t) (← number? 8 10 t)
    if t.length = 10 then return date day
    else
      let (micro, offset) := behindSeconds (t.drop 19)
      let time ← TimeOfDay.of? (← number? 11 13 t) (← number? 14 16 t) (← number? 17 19 t)
        (← micro.toNat?)
      return timestamp ⟨day, time, offset⟩

/-- The digits of ASCII at the start of a text, at most six of them. -/
def plainDigits (t : Text) : Text :=
  (t.take 6).takeWhile Char.isDigit

/-- The columns of the time of day at the start of a text, and the fraction of three to six digits
behind it, if there is one. -/
def clock? (t : Text) : Option (Text × Text) :=
  match t.take 8 with
  | [a, b, ':', c, d, ':', e, f] =>
    if [a, b, c, d, e, f].all Char.isDigit then
      let part :=
        match t.drop 8 with
        | '.' :: rest => if 3 ≤ (plainDigits rest).length then plainDigits rest else []
        | _ => []
      some (t.take 8, part)
    else none
  | _ => none

/-- The time of day that its columns denote. The digits of a fraction count millionths of a second,
however many they are. -/
def timeOf (clock part : Text) : Except Flaw Toml :=
  let micro := Number.integer? part
  match number? 0 2 clock, number? 3 5 clock, number? 6 8 clock with
  | some h, some m, some s =>
    match TimeOfDay.of? h m s (micro.getD 0).toNat with
    | some t => .ok (time t)
    | none => .error .malformed
  | _, _, _ => .error .malformed

/-- Whether the zeros and underscores of a numeral stand where they may. -/
def isPlainNumeral (t : Text) : Bool :=
  let t := trim t
  let unsigned := if t.head? = some '+' || t.head? = some '-' then t.drop 1 else t
  match t with
  | [] => false
  | [c] => c != '_'
  | first :: second :: _ =>
    first != '_' && t.getLast? != some '_' && !occursIn ['_', '.'] t && !occursIn ['.', '_'] t &&
      (first != '0' || ['.', 'o', 'b', 'x'].contains second) &&
      !(unsigned.length < t.length && 1 < unsigned.length && unsigned.head? = some '0' &&
        unsigned[1]? != some '.') &&
      !occursIn ['_', '_'] unsigned

/-- The value of digits in a base; none if there are none or other characters. -/
def digitsIn? (base : Nat) (t : Text) : Option Nat :=
  if t.isEmpty then none
  else t.foldlM (fun n c =>
    let d := (digitValue? c).or (hexValue? c)
    d.bind fun d => if d < base then some (base * n + d) else none) 0

/-- The natural number that a literal without sign and underscores denotes. A decimal one has no
zero before other digits. -/
def natural? : Text → Option Nat
  | '0' :: c :: ds =>
    if c = 'x' || c = 'X' then digitsIn? 16 ds
    else if c = 'o' || c = 'O' then digitsIn? 8 ds
    else if c = 'b' || c = 'B' then digitsIn? 2 ds
    else (digitsIn? 10 (c :: ds)).filter (· = 0)
  | ds => if ds.length ≤ Number.mostDigits then digitsIn? 10 ds else none

/-- The integer that a literal without underscores denotes. -/
def integer? (t : Text) : Option Int :=
  let (negative, t) := Number.leadingSign t
  (natural? t).map fun n => if negative then -(n : Int) else n

/-- Whether a literal without sign is written as a number with a fraction or an exponent. -/
def looksReal (t : Text) : Bool :=
  t.contains '.' || (!t.contains 'x' && (t.contains 'e' || t.contains 'E'))

/-- Zero minus a number; that of zero has no sign. -/
def negate : Binary64 → Binary64
  | .nan => .nan
  | .infinity negative => .infinity (!negative)
  | .finite negative mantissa exponent =>
    .finite (!negative && mantissa != 0) mantissa exponent

/-- A number as a value. -/
def ofReal (negative : Bool) (t : Text) : Except Flaw Toml :=
  match Number.ofText? t with
  | some x => .ok (real (if negative then negate x else x))
  | none => .error .malformed

/-- The number that a text denotes. Of a number with a fraction, neither side of the point may be
empty. -/
def numeral (t : Text) : Except Flaw Toml :=
  let negative := t.head? = some '-'
  let t := if negative || t.head? = some '+' then t.drop 1 else t
  let t := t.filter (· != '_')
  let lower := t.map Char.toLower
  if looksReal t then
    if (t.contains '.' && (t.dropWhile (· != '.')).length = 1) || !t.head?.any Char.isDigit then
      .error .malformed
    else ofReal negative t
  else if lower = "inf".toList || lower = "nan".toList then ofReal negative t
  else
    match integer? t with
    | some n => .ok (int (if negative then -n else n))
    | none => .error .malformed

/-- The number or the point in time that a text denotes. The flag says whether a numeral is known to
have its zeros and underscores where they may stand. -/
def scalar (plain : Bool) (t : Text) : Except Flaw Toml :=
  match clock? t, date? t with
  | some (clock, part), _ => timeOf clock part
  | none, some v => .ok v
  | none, none => if plain then numeral t else .error .malformed

end Kudos.Toml
