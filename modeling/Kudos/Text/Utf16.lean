import Kudos.Text.Quoted

/-!
# UTF-16

A text as 16-bit units: a character beyond the basic plane takes two, a high and a low surrogate. A
list of units may also hold surrogates that are not part of such a pair; `decode` writes the
replacement character for each of them.
-/

namespace Kudos.Utf16

/-- The units of one character. -/
def encodeChar (c : Char) : List UInt16 :=
  let n := c.toNat
  if n < 0x10000 then [UInt16.ofNat n]
  else
    let m := n - 0x10000
    [UInt16.ofNat (0xD800 + m / 0x400), UInt16.ofNat (0xDC00 + m % 0x400)]

/-- The units of a text. -/
def encode (t : Text) : List UInt16 :=
  t.flatMap encodeChar

/-- Whether a unit is the first of a pair. -/
def isHigh (u : UInt16) : Bool :=
  0xD800 ≤ u.toNat && u.toNat < 0xDC00

/-- Whether a unit is the second of a pair. -/
def isLow (u : UInt16) : Bool :=
  0xDC00 ≤ u.toNat && u.toNat < 0xE000

/-- The text of some units, given what becomes of a character and of an unpaired surrogate. -/
def decodeWith (ofChar : Char → Text) (ofLone : UInt16 → Text) : List UInt16 → Text
  | [] => []
  | [u] => if isHigh u || isLow u then ofLone u else ofChar (Char.ofNat u.toNat)
  | u :: v :: rest =>
    if isHigh u && isLow v then
      ofChar (Char.ofNat (0x10000 + (u.toNat - 0xD800) * 0x400 + (v.toNat - 0xDC00))) ++
        decodeWith ofChar ofLone rest
    else if isHigh u || isLow u then ofLone u ++ decodeWith ofChar ofLone (v :: rest)
    else ofChar (Char.ofNat u.toNat) ++ decodeWith ofChar ofLone (v :: rest)

/-- The text of some units, with the replacement character for each unpaired surrogate. -/
def decode : List UInt16 → Text :=
  decodeWith (fun c => [c]) fun _ => ['\uFFFD']

/-- The text of some units in quotation marks, with unpaired surrogates as escapes. -/
def quote (s : List UInt16) : Text :=
  let mark := Text.markFor (decode s)
  mark :: decodeWith (Text.quoteChar mark) (fun u => '\\' :: 'u' :: Text.hex 4 u.toNat) s ++ [mark]

end Kudos.Utf16
