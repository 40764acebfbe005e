import Mathlib
import Kudos.Link.Percent
import Kudos.Proofs.Json.Units
import Kudos.Proofs.Text.Utf8

/-!
# Percent encoding and decoding

What is encoded has only characters that may stand in a component of a URL (`Component`), and the text is
decoded from it again: each escape stands for its byte, and the bytes are UTF-8.
-/

namespace Kudos.Percent

variable {c a b : Char} {t t' rest : Text} {bytes : List UInt8}

/-- Whether a text has only letters, digits, a few marks, and bytes escaped with two digits. -/
inductive Component : Text → Prop where
  | nil : Component []
  | plain {c : Char} {t : Text} (hc : c.isAlphanum ∨ c ∈ "-_.~!*'()".toList) (ht : Component t) : Component (c :: t)
  | escape {a b : Char} {t : Text} (ha : a ∈ "0123456789ABCDEF".toList) (hb : b ∈ "0123456789ABCDEF".toList)
      (ht : Component t) : Component ('%' :: a :: b :: t)

/-- The bytes that a text stands for: one for each escape, and the UTF-8 of every other character. -/
def bytes? : Text → Option (List UInt8)
  | [] => some []
  | '%' :: a :: b :: rest => do
    let n ← Text.hexNumber? [a, b]
    let bytes ← bytes? rest
    return UInt8.ofNat n :: bytes
  | c :: rest => if c = '%' then none else (bytes? rest).map (Utf8.encodeChar c ++ ·)

/-- The text that a text stands for, if its escapes are well-formed and its bytes are UTF-8. -/
def decode? (t : Text) : Option Text :=
  (bytes? t).bind Utf8.decode?

/-! ## Decoding -/

theorem bytes?_cons (hc : c ≠ '%') : bytes? (c :: rest) = (bytes? rest).map (Utf8.encodeChar c ++ ·) := by
  rw [bytes?]
  · rw [if_neg hc]
  · intro _ _ _ heq
    exact absurd heq hc

theorem hexValue?_toUpper_hexDigit : ∀ n < 16, Text.hexValue? (Text.hexDigit n).toUpper = some n := by
  decide

theorem toUpper_hexDigit_mem : ∀ n < 16, (Text.hexDigit n).toUpper ∈ "0123456789ABCDEF".toList := by
  decide

theorem escapeByte_eq (b : UInt8) :
    escapeByte b = ['%', (Text.hexDigit (b.toNat / 16 % 16)).toUpper, (Text.hexDigit (b.toNat % 16)).toUpper] := rfl

theorem bytes?_escapeByte (b : UInt8) (rest : Text) :
    bytes? (escapeByte b ++ rest) = (bytes? rest).map (b :: ·) := by
  have hhigh := hexValue?_toUpper_hexDigit (b.toNat / 16 % 16) (Nat.mod_lt _ (by decide))
  have hlow := hexValue?_toUpper_hexDigit (b.toNat % 16) (Nat.mod_lt _ (by decide))
  have hsum : 16 * (b.toNat / 16 % 16) + b.toNat % 16 = b.toNat := by
    have hlt : b.toNat < 256 := b.toNat_lt
    omega
  rw [escapeByte_eq]
  show bytes? ('%' :: _ :: _ :: rest) = _
  rw [bytes?]
  unfold Text.hexNumber?
  simp only [List.foldlM_cons, List.foldlM_nil, hhigh, hlow]
  cases bytes? rest with
  | none => rfl
  | some bytes => simp [hsum]

theorem bytes?_escapes (bytes : List UInt8) (rest : Text) :
    bytes? (bytes.flatMap escapeByte ++ rest) = (bytes? rest).map (bytes ++ ·) := by
  induction bytes with
  | nil => simp
  | cons b bytes ih =>
    rw [List.flatMap_cons, List.append_assoc, bytes?_escapeByte, ih, Option.map_map]
    rfl

theorem bytes?_encode (t : Text) : bytes? (encode t) = some (Utf8.encode t) := by
  induction t with
  | nil => rfl
  | cons c t ih =>
    have hencode : encode (c :: t) = encodeChar c ++ encode t := List.flatMap_cons
    have hbytes : Utf8.encode (c :: t) = Utf8.encodeChar c ++ Utf8.encode t := List.flatMap_cons
    rw [hencode, hbytes]
    unfold encodeChar
    split
    · next hplain =>
      have hc : c ≠ '%' := by
        rintro rfl
        exact absurd hplain (by decide)
      rw [List.singleton_append, bytes?_cons hc, ih, Option.map_some]
    · rw [bytes?_escapes, ih, Option.map_some]

/-- What was encoded is decoded. -/
theorem decode?_encode (t : Text) : decode? (encode t) = some t := by
  unfold decode?
  rw [bytes?_encode, Option.bind_some, Utf8.decode?_encode]

/-! ## Components -/

theorem Component.append (ht : Component t) (ht' : Component t') : Component (t ++ t') := by
  induction ht with
  | nil => exact ht'
  | plain hc _ ih => exact .plain hc ih
  | escape ha hb _ ih => exact .escape ha hb ih

theorem component_escapes (bytes : List UInt8) : Component (bytes.flatMap escapeByte) := by
  induction bytes with
  | nil => exact .nil
  | cons b bytes ih =>
    rw [List.flatMap_cons, escapeByte_eq]
    exact .escape (toUpper_hexDigit_mem _ (Nat.mod_lt _ (by decide)))
      (toUpper_hexDigit_mem _ (Nat.mod_lt _ (by decide))) ih

theorem component_encode (t : Text) : Component (encode t) := by
  induction t with
  | nil => exact .nil
  | cons c t ih =>
    have hencode : encode (c :: t) = encodeChar c ++ encode t := List.flatMap_cons
    rw [hencode]
    unfold encodeChar
    split
    · next hplain =>
      unfold isPlain at hplain
      rw [Bool.or_eq_true, List.contains_iff_mem] at hplain
      exact .plain hplain ih
    · exact (component_escapes _).append ih

/-- Every other character separates components. -/
theorem Component.not_mem (ht : Component t) (halnum : ¬ c.isAlphanum) (hmark : c ∉ "-_.~!*'()".toList)
    (hpercent : c ≠ '%') : c ∉ t := by
  have hdigits : "0123456789ABCDEF".toList.all Char.isAlphanum = true := rfl
  have hdigit := List.all_eq_true.mp hdigits
  induction ht with
  | nil => exact List.not_mem_nil
  | plain hd _ ih =>
    rw [List.mem_cons, not_or]
    refine ⟨?_, ih⟩
    rintro rfl
    exact hd.elim halnum hmark
  | escape ha hb _ ih =>
    simp only [List.mem_cons, not_or]
    refine ⟨hpercent, ?_, ?_, ih⟩
    · rintro rfl
      exact halnum (hdigit _ ha)
    · rintro rfl
      exact halnum (hdigit _ hb)

end Kudos.Percent
