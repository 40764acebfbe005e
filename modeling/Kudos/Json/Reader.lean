import Kudos.Json.Basic
import Kudos.Number.Reader

/-!
# Reading JSON

The text of one JSON value, with blanks around it. Beyond the standard, the words `NaN`, `Infinity`
and `-Infinity` are numbers. A control character inside a string and a byte order mark are refused.
Of a repeated key the last value counts, in the place of the first.

The reader goes from left to right and stops at the first thing that is wrong: where the text does
not follow the notation, or where it goes beyond a limit.
-/

namespace Kudos.Json

open Text

/-- What is wrong with a text. -/
inductive Flaw where
  /-- It does not follow the notation. -/
  | malformed
  /-- It goes beyond a limit. -/
  | beyond (limit : Overrun)
  deriving Repr, DecidableEq

/-- The blanks of the format. -/
def isSpace (c : Char) : Bool :=
  c = ' ' || c = '\t' || c = '\n' || c = '\r'

/-- The text behind leading blanks. -/
def skipSpace (t : Text) : Text :=
  t.dropWhile isSpace

/-- The unit that a letter behind a backslash denotes. -/
def escaped? : Char → Option UInt16
  | '"' => some 0x22
  | '\\' => some 0x5C
  | '/' => some 0x2F
  | 'b' => some 0x08
  | 'f' => some 0x0C
  | 'n' => some 0x0A
  | 'r' => some 0x0D
  | 't' => some 0x09
  | _ => none

/-- The units of a string up to its closing quotation mark, and the text behind it. -/
def readUnits : Text → Option (Units × Text)
  | [] => none
  | '"' :: rest => some ([], rest)
  | '\\' :: 'u' :: a :: b :: c :: d :: rest => do
    let n ← hexNumber? [a, b, c, d]
    let (units, rest) ← readUnits rest
    return (UInt16.ofNat n :: units, rest)
  | '\\' :: e :: rest => do
    let u ← escaped? e
    let (units, rest) ← readUnits rest
    return (u :: units, rest)
  | c :: rest =>
    if c = '\\' || c.toNat < 0x20 then none
    else do
      let (units, rest) ← readUnits rest
      return (Utf16.encodeChar c ++ units, rest)

/-- A word at the start of a text, and the text behind it. -/
def word? (w : String) (t : Text) : Option Text :=
  if w.toList.isPrefixOf t then some (t.drop w.toList.length) else none

/-- The ASCII digits at the start of a text, and the rest. -/
def spanDigits (t : Text) : Text × Text :=
  t.span Char.isDigit

/-- A fraction at the start of a text, and the rest; no digits if there is none. -/
def fraction (t : Text) : Text × Text :=
  match t with
  | '.' :: t' =>
    match spanDigits t' with
    | ([], _) => ([], t)
    | (ds, rest) => (ds, rest)
  | _ => ([], t)

/-- An exponent at the start of a text, and the rest. -/
def exponent? (t : Text) : Option (Int × Text) :=
  match t with
  | e :: t' =>
    if e = 'e' || e = 'E' then
      let (negative, t') := Number.leadingSign t'
      match spanDigits t' with
      | ([], _) => none
      | (ds, rest) =>
        let n : Int := (decimal ds : Nat)
        some (if negative then -n else n, rest)
    else none
  | [] => none
where
  /-- The number that ASCII digits denote. -/
  decimal (ds : Text) : Nat :=
    ds.foldl (fun n d => 10 * n + (d.toNat - '0'.toNat)) 0

/-- The digits of a whole number without sign: a zero alone, or digits that start with no zero. -/
def wholeDigits? (t : Text) : Option (Text × Text) :=
  match t with
  | '0' :: rest => some (['0'], rest)
  | _ =>
    match spanDigits t with
    | ([], _) => none
    | (ds, rest) => some (ds, rest)

/-- The integer that digits denote, unless there are too many of them. -/
def integer (l : Limits) (negative : Bool) (ds : Text) : Except Flaw Json :=
  if l.excludes ds.length then .error (.beyond (.digits (some ds.length)))
  else
    let n : Int := (exponent?.decimal ds : Nat)
    .ok (int (if negative then -n else n))

/-- A number without its sign, and the text behind it. -/
def unsigned (l : Limits) (negative : Bool) (t : Text) : Except Flaw (Json × Text) :=
  match wholeDigits? t with
  | none => .error .malformed
  | some (whole, t) =>
    let (part, t) := fraction t
    match part, exponent? t with
    | [], none => (integer l negative whole).map (·, t)
    | part, none =>
      .ok (real (.ofDecimal negative (exponent?.decimal (whole ++ part)) (-part.length)), t)
    | part, some (e, t) =>
      .ok (real (.ofDecimal negative (exponent?.decimal (whole ++ part)) (e - part.length)), t)

/-- A constant word, and the text behind it. -/
def constant? (t : Text) : Option (Json × Text) :=
  ((word? "null" t).map (null, ·)) <|> ((word? "true" t).map (bool true, ·)) <|>
    ((word? "false" t).map (bool false, ·)) <|> ((word? "NaN" t).map (real .nan, ·)) <|>
    ((word? "Infinity" t).map (real (.infinity false), ·)) <|>
    ((word? "-Infinity" t).map (real (.infinity true), ·))

/-- A number or a constant word, and the text behind it. -/
def atom (l : Limits) (t : Text) : Except Flaw (Json × Text) :=
  match constant? t with
  | some found => .ok found
  | none =>
    match t with
    | '-' :: t' => unsigned l true t'
    | _ => unsigned l false t

mutual

/-- A value at the start of a text, and the text behind it. The first number bounds the number of
steps; the length of the text is enough. -/
def readValue (l : Limits) : Nat → Text → Except Flaw (Json × Text)
  | 0, _ => .error .malformed
  | fuel + 1, t =>
    match t with
    | '"' :: t =>
      match readUnits t with
      | some (s, t) => .ok (string s, t)
      | none => .error .malformed
    | '[' :: t =>
      match l.inside? with
      | none => .error (.beyond .levels)
      | some l =>
        match skipSpace t with
        | ']' :: t => .ok (array [], t)
        | t => (readItems l fuel t).map fun (items, t) => (array items, t)
    | '\x7b' :: t =>
      match l.inside? with
      | none => .error (.beyond .levels)
      | some l =>
        match skipSpace t with
        | '\x7d' :: t => .ok (object [], t)
        | t => (readFields l fuel t).map fun (fields, t) => (object (Fields.ofList fields), t)
    | t => atom l t

/-- The items of an array from the first one on, and the text behind the closing bracket. -/
def readItems (l : Limits) : Nat → Text → Except Flaw (List Json × Text)
  | 0, _ => .error .malformed
  | fuel + 1, t => do
    let (v, t) ← readValue l fuel t
    match skipSpace t with
    | ']' :: t => return ([v], t)
    | ',' :: t =>
      let (rest, t) ← readItems l fuel (skipSpace t)
      return (v :: rest, t)
    | _ => throw .malformed

/-- The fields of an object from the first one on, and the text behind the closing brace. -/
def readFields (l : Limits) : Nat → Text → Except Flaw (List (Units × Json) × Text)
  | 0, _ => .error .malformed
  | fuel + 1, t =>
    match t with
    | '"' :: t =>
      match readUnits t with
      | none => .error .malformed
      | some (key, t) =>
        match skipSpace t with
        | ':' :: t => do
          let (v, t) ← readValue l fuel (skipSpace t)
          match skipSpace t with
          | '\x7d' :: t => return ([(key, v)], t)
          | ',' :: t =>
            let (rest, t) ← readFields l fuel (skipSpace t)
            return ((key, v) :: rest, t)
          | _ => throw .malformed
        | _ => .error .malformed
    | _ => .error .malformed

end

/-- The value that a text denotes, within some limits. -/
def read (l : Limits) (t : Text) : Except Flaw Json :=
  match readValue l (t.length + 1) (skipSpace t) with
  | .ok (v, rest) => if (skipSpace rest).isEmpty then .ok v else .error .malformed
  | .error flaw => .error flaw

/-- The value that a text denotes, however large it is. -/
def read? (t : Text) : Option Json :=
  (read {} t).toOption

end Kudos.Json
