import Kudos.Text.Basic

/-!
# Points in time

A date, or a date with a time of day and perhaps an offset from universal time, in the notation of
ISO 8601.
-/

namespace Kudos

/-- A calendar date. -/
structure Date where
  /-- The year. -/
  year : Nat
  /-- The month, from one. -/
  month : Nat
  /-- The day, from one. -/
  day : Nat
  deriving Repr, DecidableEq, Inhabited

/-- A time of day. -/
structure TimeOfDay where
  /-- The hour. -/
  hour : Nat
  /-- The minute. -/
  minute : Nat
  /-- The second. -/
  second : Nat
  /-- The millionths of a second. -/
  micro : Nat
  deriving Repr, DecidableEq, Inhabited

/-- A date with a time of day. -/
structure Timestamp where
  /-- The date. -/
  date : Date
  /-- The time of day. -/
  time : TimeOfDay
  /-- The seconds by which local time is ahead of universal time, if they are known. -/
  offset : Option Int := none
  deriving Repr, DecidableEq, Inhabited

/-- A number in at least a given count of decimal digits. -/
def padded (width n : Nat) : Text :=
  Text.padLeft width '0' (Text.ofNat n)

namespace Date

/-- Whether a year has a leap day. -/
def isLeap (year : Nat) : Bool :=
  year % 4 = 0 && (year % 100 != 0 || year % 400 = 0)

/-- The number of days of a month. -/
def daysIn (year month : Nat) : Nat :=
  if month = 2 then (if isLeap year then 29 else 28)
  else if month = 4 || month = 6 || month = 9 || month = 11 then 30
  else 31

/-- The date, if there is such a day in the years 1 to 9999. -/
def of? (year month day : Nat) : Option Date :=
  if 1 ≤ year && year ≤ 9999 && 1 ≤ month && month ≤ 12 && 1 ≤ day && day ≤ daysIn year month then
    some ⟨year, month, day⟩
  else none

/-- The date as text. -/
def text (d : Date) : Text :=
  padded 4 d.year ++ '-' :: padded 2 d.month ++ '-' :: padded 2 d.day

end Date

namespace TimeOfDay

/-- The time, if the day has it. -/
def of? (hour minute second micro : Nat) : Option TimeOfDay :=
  if hour < 24 && minute < 60 && second < 60 && micro < 1000000 then
    some ⟨hour, minute, second, micro⟩
  else none

/-- The time as text; millionths of a second are written only if there are any. -/
def text (t : TimeOfDay) : Text :=
  padded 2 t.hour ++ ':' :: padded 2 t.minute ++ ':' :: padded 2 t.second ++
    if t.micro = 0 then [] else '.' :: padded 6 t.micro

end TimeOfDay

namespace Timestamp

/-- An offset from universal time; seconds are written only if there are any. -/
def offsetText (seconds : Int) : Text :=
  let n := seconds.natAbs
  (if seconds < 0 then '-' else '+') :: padded 2 (n / 3600) ++ ':' :: padded 2 (n / 60 % 60) ++
    if n % 60 = 0 then [] else ':' :: padded 2 (n % 60)

/-- The point in time with a separator between date and time. -/
def textWith (separator : Char) (t : Timestamp) : Text :=
  t.date.text ++ separator :: t.time.text ++ (t.offset.map offsetText).getD []

/-- The point in time in the notation of ISO 8601. -/
def iso : Timestamp → Text :=
  textWith 'T'

end Timestamp

end Kudos
