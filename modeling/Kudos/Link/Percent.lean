import Kudos.Text.Quoted
import Kudos.Text.Utf8

/-!
# Percent encoding

The form of a text inside a URL: ASCII letters, digits and a few marks as they are, and every other
byte of its UTF-8 as a percent sign with two hexadecimal digits.
-/

namespace Kudos.Percent

/-- The characters that stand for themselves in one component of a URL. -/
def isPlain (c : Char) : Bool :=
  c.isAlphanum || "-_.~!*'()".toList.contains c

/-- A byte as a percent sign with two digits. -/
def escapeByte (b : UInt8) : Text :=
  '%' :: (Text.hex 2 b.toNat).map Char.toUpper

/-- One character inside a URL. -/
def encodeChar (c : Char) : Text :=
  if isPlain c then [c] else (Utf8.encodeChar c).flatMap escapeByte

/-- A text inside a URL. -/
def encode (t : Text) : Text :=
  t.flatMap encodeChar

end Kudos.Percent
