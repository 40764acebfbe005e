import Mathlib
import Kudos.Text.Utf16

/-!
# Writing and reading UTF-16

A text is decoded from its units again, for no character is a surrogate. A list of units that is not
empty denotes a text that is not empty.
-/

namespace Kudos.Utf16

variable {u : UInt16} {units : List UInt16}

theorem isHigh_ofNat {n : Nat} (h : n < 0x10000) :
    isHigh (UInt16.ofNat n) = (decide (0xD800 ≤ n) && decide (n < 0xDC00)) := by
  unfold isHigh
  rw [UInt16.toNat_ofNat_of_lt' h]

theorem isLow_ofNat {n : Nat} (h : n < 0x10000) :
    isLow (UInt16.ofNat n) = (decide (0xDC00 ≤ n) && decide (n < 0xE000)) := by
  unfold isLow
  rw [UInt16.toNat_ofNat_of_lt' h]

/-- A unit that is no surrogate is a character. -/
theorem decode_cons (hhigh : isHigh u = false) (hlow : isLow u = false) (units : List UInt16) :
    decode (u :: units) = Char.ofNat u.toNat :: decode units := by
  unfold decode
  cases units with
  | nil => simp [decodeWith, hhigh, hlow]
  | cons v units => simp [decodeWith, hhigh, hlow]

theorem decode_pair {v : UInt16} (hhigh : isHigh u) (hlow : isLow v) (units : List UInt16) :
    decode (u :: v :: units) =
      Char.ofNat (0x10000 + (u.toNat - 0xD800) * 0x400 + (v.toNat - 0xDC00)) :: decode units := by
  unfold decode
  simp [decodeWith, hhigh, hlow]

theorem decode_encodeChar_append (c : Char) (units : List UInt16) :
    decode (encodeChar c ++ units) = c :: decode units := by
  have hself : Char.ofNat c.toNat = c := Char.ofNat_toNat c
  have hvalid : c.toNat < 0xD800 ∨ 0xDFFF < c.toNat ∧ c.toNat < 0x110000 := c.valid
  unfold encodeChar
  dsimp only
  split_ifs with hbasic
  · have hhigh : isHigh (UInt16.ofNat c.toNat) = false := by
      rw [isHigh_ofNat hbasic, Bool.and_eq_false_iff, decide_eq_false_iff_not, decide_eq_false_iff_not]
      omega
    have hlow : isLow (UInt16.ofNat c.toNat) = false := by
      rw [isLow_ofNat hbasic, Bool.and_eq_false_iff, decide_eq_false_iff_not, decide_eq_false_iff_not]
      omega
    rw [List.singleton_append, decode_cons hhigh hlow, UInt16.toNat_ofNat_of_lt' hbasic, hself]
  · have hfirst : 0xD800 + (c.toNat - 0x10000) / 0x400 < 0x10000 := by omega
    have hsecond : 0xDC00 + (c.toNat - 0x10000) % 0x400 < 0x10000 := by omega
    have hhigh : isHigh (UInt16.ofNat (0xD800 + (c.toNat - 0x10000) / 0x400)) := by
      rw [isHigh_ofNat hfirst, Bool.and_eq_true, decide_eq_true_eq, decide_eq_true_eq]
      omega
    have hlow : isLow (UInt16.ofNat (0xDC00 + (c.toNat - 0x10000) % 0x400)) := by
      rw [isLow_ofNat hsecond, Bool.and_eq_true, decide_eq_true_eq, decide_eq_true_eq]
      omega
    rw [List.cons_append, List.singleton_append, decode_pair hhigh hlow,
      UInt16.toNat_ofNat_of_lt' hfirst, UInt16.toNat_ofNat_of_lt' hsecond]
    have hsum : 0x10000 + (0xD800 + (c.toNat - 0x10000) / 0x400 - 0xD800) * 0x400 +
        (0xDC00 + (c.toNat - 0x10000) % 0x400 - 0xDC00) = c.toNat := by omega
    rw [hsum, hself]

theorem decode_encode (t : Text) : decode (encode t) = t := by
  induction t with
  | nil => rfl
  | cons c t ih =>
    have hencode : encode (c :: t) = encodeChar c ++ encode t := List.flatMap_cons
    rw [hencode, decode_encodeChar_append, ih]

theorem encode_ne_nil {t : Text} (h : t ≠ []) : encode t ≠ [] := by
  intro hnil
  have hdecode := decode_encode t
  rw [hnil] at hdecode
  exact h hdecode.symm

theorem decode_ne_nil (h : units ≠ []) : decode units ≠ [] := by
  obtain ⟨u, units, rfl⟩ := List.exists_cons_of_ne_nil h
  unfold decode
  cases units with
  | nil =>
    rw [decodeWith]
    split <;> simp
  | cons v units =>
    rw [decodeWith]
    split
    · simp
    · split <;> simp

end Kudos.Utf16
