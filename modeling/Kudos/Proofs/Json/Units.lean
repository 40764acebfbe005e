import Mathlib
import Kudos.Json.Printer
import Kudos.Json.Reader

/-!
# Strings in JSON text

Every unit of a string is written as itself or as an escape, and read as the same unit.
-/

namespace Kudos

namespace Text

theorem hexValue?_hexDigit : ∀ n < 16, hexValue? (hexDigit n) = some n := by
  decide

theorem hexNumber?_hex {width n : Nat} (h : n < 16 ^ width) : hexNumber? (hex width n) = some n := by
  induction width generalizing n with
  | zero =>
    rw [pow_zero, Nat.lt_one_iff] at h
    subst h
    rfl
  | succ width ih =>
    have hhigh : n / 16 < 16 ^ width := by
      rw [pow_succ] at h
      omega
    have hlow := hexValue?_hexDigit (n % 16) (Nat.mod_lt n (by decide))
    have hfold := ih hhigh
    unfold hexNumber? at hfold ⊢
    unfold hex
    rw [List.foldlM_append, hfold]
    simp [hlow, Nat.div_add_mod]

end Text

namespace Json

variable {rest : Text}

/-- A unit that is written as itself. -/
theorem readUnits_plain {c : Char} (h : 0x20 ≤ c.toNat) (hmark : c ≠ '"') (hslash : c ≠ '\\') :
    readUnits (c :: rest) = (readUnits rest).map fun r => (Utf16.encodeChar c ++ r.1, r.2) := by
  have hplain : ¬ (c = '\\' || c.toNat < 0x20) := by simpa [hslash] using h
  rw [readUnits]
  · rw [if_neg hplain]
    cases readUnits rest <;> rfl
  · exact hmark
  · intro _ _ _ _ _ hc
    exact absurd hc hslash
  · intro _ _ hc
    exact absurd hc hslash

/-- A unit that is written by its number. -/
theorem readUnits_escapeNumber (u : UInt16) :
    readUnits (escapeNumber u ++ rest) = (readUnits rest).map fun r => (u :: r.1, r.2) := by
  have hnumber : Text.hexNumber? (Text.hex 4 u.toNat) = some u.toNat := Text.hexNumber?_hex u.toNat_lt
  have hhex : ∃ a b c d, Text.hex 4 u.toNat = [a, b, c, d] := ⟨_, _, _, _, rfl⟩
  obtain ⟨a, b, c, d, hhex⟩ := hhex
  unfold escapeNumber
  rw [hhex] at hnumber ⊢
  show readUnits ('\\' :: 'u' :: a :: b :: c :: d :: rest) = _
  rw [readUnits, hnumber]
  cases readUnits rest with
  | none => rfl
  | some r => simp

theorem readUnits_writeUnit (u : UInt16) :
    readUnits (writeUnit u ++ rest) = (readUnits rest).map fun r => (u :: r.1, r.2) := by
  have named : ∀ (e : Char) (n : UInt16), escaped? e = some n → u.toNat = n.toNat →
      (∀ a b c d rest', e = 'u' → rest = a :: b :: c :: d :: rest' → False) →
      readUnits ('\\' :: e :: rest) = (readUnits rest).map fun r => (u :: r.1, r.2) := by
    intro e n he hu hshort
    rw [readUnits, he, UInt16.toNat_inj.mp hu]
    · cases readUnits rest <;> rfl
    · exact hshort
  unfold writeUnit
  dsimp only
  split_ifs with h1 h2 h3 h4 h5 h6 h7 h8
  · exact named '"' _ rfl h1 (by simp)
  · exact named '\\' _ rfl h2 (by simp)
  · exact named 'n' _ rfl h3 (by simp)
  · exact named 'r' _ rfl h4 (by simp)
  · exact named 't' _ rfl h5 (by simp)
  · exact named 'b' _ rfl h6 (by simp)
  · exact named 'f' _ rfl h7 (by simp)
  · rw [Bool.and_eq_true, decide_eq_true_eq, decide_eq_true_eq] at h8
    obtain ⟨hlow, hhigh⟩ := h8
    have hchar : (Char.ofNat u.toNat).toNat = u.toNat := by
      rw [Char.toNat_ofNat, if_pos (.inl (by omega))]
    have hne : ∀ c : Char, u.toNat ≠ c.toNat → Char.ofNat u.toNat ≠ c := by
      rintro c hc rfl
      exact hc hchar.symm
    have hencode : Utf16.encodeChar (Char.ofNat u.toNat) = [u] := by
      unfold Utf16.encodeChar
      rw [hchar, if_pos (by omega), UInt16.ofNat_toNat]
    rw [List.singleton_append, readUnits_plain (hchar.symm ▸ hlow) (hne _ h1) (hne _ h2), hencode]
    rfl
  · exact readUnits_escapeNumber u

theorem readUnits_writeString (s : Units) :
    readUnits (s.flatMap writeUnit ++ '"' :: rest) = some (s, rest) := by
  induction s with
  | nil => rw [List.flatMap_nil, List.nil_append, readUnits]
  | cons u s ih => rw [List.flatMap_cons, List.append_assoc, readUnits_writeUnit, ih, Option.map_some]

end Json

end Kudos
