import Kudos.Text.Basic

/-!
# UTF-8

The bytes of a text. Reading goes from left to right: at each place stands either a well-formed
sequence of one to four bytes, which is the shortest one for its character and never a surrogate, or
a byte that starts none. `decode?` refuses a text with such a byte, `decodeLossy` drops it.
-/

namespace Kudos.Utf8

/-- The bytes of one character. -/
def encodeChar (c : Char) : List UInt8 :=
  let n := c.toNat
  let tail (unit : Nat) : UInt8 := UInt8.ofNat (0x80 + n / unit % 0x40)
  if n < 0x80 then [UInt8.ofNat n]
  else if n < 0x800 then [UInt8.ofNat (0xC0 + n / 0x40), tail 1]
  else if n < 0x10000 then [UInt8.ofNat (0xE0 + n / 0x1000), tail 0x40, tail 1]
  else [UInt8.ofNat (0xF0 + n / 0x40000), tail 0x1000, tail 0x40, tail 1]

/-- The bytes of a text. -/
def encode (t : Text) : List UInt8 :=
  t.flatMap encodeChar

/-- The six bits that a continuation byte carries. -/
def tailBits? (b : UInt8) : Option Nat :=
  if 0x80 ≤ b.toNat && b.toNat < 0xC0 then some (b.toNat - 0x80) else none

/-- The number that the first `count` bytes carry in six bits each, behind bits that are known. -/
def tailValue? : Nat → Nat → List UInt8 → Option Nat
  | 0, known, _ => some known
  | _ + 1, _, [] => none
  | count + 1, known, b :: bytes =>
    (tailBits? b).bind fun bits => tailValue? count (64 * known + bits) bytes

/-- The number of continuation bytes behind a leading byte, the bits that it carries itself, and the
least code point that needs as many bytes. -/
def leading? (b : UInt8) : Option (Nat × Nat × Nat) :=
  let n := b.toNat
  if n < 0x80 then some (0, n, 0)
  else if 0xC0 ≤ n && n < 0xE0 then some (1, n - 0xC0, 0x80)
  else if 0xE0 ≤ n && n < 0xF0 then some (2, n - 0xE0, 0x800)
  else if 0xF0 ≤ n && n < 0xF8 then some (3, n - 0xF0, 0x10000)
  else none

/-- The character at the start of some bytes and the number of continuation bytes it takes; none if
no well-formed sequence starts there. -/
def decodeChar? : List UInt8 → Option (Char × Nat)
  | [] => none
  | b :: bytes =>
    match leading? b with
    | none => none
    | some (count, bits, least) =>
      match tailValue? count bits bytes with
      | none => none
      | some n => if h : n.isValidChar ∧ least ≤ n then some (Char.ofNatAux n h.1, count) else none

/-- The characters that the bytes encode, none for each byte that starts no well-formed sequence,
after `skip` bytes have been passed over. -/
def scan : List UInt8 → Nat → List (Option Char)
  | [], _ => []
  | _ :: bytes, skip + 1 => scan bytes skip
  | b :: bytes, 0 =>
    match decodeChar? (b :: bytes) with
    | some (c, count) => some c :: scan bytes count
    | none => none :: scan bytes 0

/-- The text that the bytes encode, if they are well-formed throughout. -/
def decode? (bytes : List UInt8) : Option Text :=
  (scan bytes 0).mapM id

/-- The text that the well-formed sequences among the bytes encode. -/
def decodeLossy (bytes : List UInt8) : Text :=
  (scan bytes 0).filterMap id

end Kudos.Utf8
