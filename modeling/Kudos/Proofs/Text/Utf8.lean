import Mathlib
import Kudos.Text.Utf8

/-!
# Writing and reading UTF-8

What is encoded is decoded as the same text: behind the sequence of a character the scanner stands at
the next one.
-/

namespace Kudos.Utf8

variable {c : Char} {n k : Nat} {bytes rest : List UInt8}

/-- The byte that carries six bits of a number. -/
def tail (n unit : Nat) : UInt8 :=
  UInt8.ofNat (0x80 + n / unit % 0x40)

theorem tailBits?_tail (n unit : Nat) : tailBits? (tail n unit) = some (n / unit % 0x40) := by
  have hlt : n / unit % 0x40 < 0x40 := Nat.mod_lt _ (by decide)
  have hbyte : (tail n unit).toNat = 0x80 + n / unit % 0x40 :=
    UInt8.toNat_ofNat_of_lt' (by show _ < 256; omega)
  unfold tailBits?
  rw [hbyte, if_pos (by simp; omega)]
  simp

theorem tailValue?_cons (count known n unit : Nat) :
    tailValue? (count + 1) known (tail n unit :: rest) =
      tailValue? count (64 * known + n / unit % 0x40) rest := by
  rw [tailValue?, tailBits?_tail, Option.bind_some]

/-- A sequence that starts with a leading byte and carries the code point of a character. -/
theorem decodeChar?_cons {b : UInt8} {count bits least : Nat}
    (hlead : leading? b = some (count, bits, least)) (hvalue : tailValue? count bits rest = some c.toNat)
    (hleast : least ≤ c.toNat) : decodeChar? (b :: rest) = some (c, count) := by
  have hvalid : c.toNat.isValidChar := c.valid
  unfold decodeChar?
  simp only [hlead, hvalue]
  rw [dif_pos ⟨hvalid, hleast⟩]
  rfl

theorem leading?_one : ∀ n < 0x80, leading? (UInt8.ofNat n) = some (0, n, 0) := by
  decide +kernel

theorem leading?_two : ∀ k < 0x20, leading? (UInt8.ofNat (0xC0 + k)) = some (1, k, 0x80) := by
  decide

theorem leading?_three : ∀ k < 0x10, leading? (UInt8.ofNat (0xE0 + k)) = some (2, k, 0x800) := by
  decide

theorem leading?_four : ∀ k < 0x08, leading? (UInt8.ofNat (0xF0 + k)) = some (3, k, 0x10000) := by
  decide

/-- The sequence of a character is decoded, whatever follows it. -/
theorem exists_encodeChar (c : Char) :
    ∃ b tail, encodeChar c = b :: tail ∧
      ∀ rest, decodeChar? (b :: (tail ++ rest)) = some (c, tail.length) := by
  have hmax : c.toNat < 0x110000 := by
    rcases c.valid with h | ⟨-, h⟩
    · exact lt_trans h (by decide)
    · exact h
  unfold encodeChar
  dsimp only
  split_ifs with h1 h2 h3
  · exact ⟨_, [], rfl, fun rest => decodeChar?_cons (leading?_one _ h1) rfl (Nat.zero_le _)⟩
  · refine ⟨_, [tail c.toNat 1], rfl, fun rest => ?_⟩
    refine decodeChar?_cons (leading?_two (c.toNat / 0x40) (by omega)) ?_ (by omega)
    simp only [List.length_cons, List.cons_append, List.nil_append, tailValue?_cons]
    rw [List.length_nil, tailValue?]
    congr 1
    omega
  · refine ⟨_, [tail c.toNat 0x40, tail c.toNat 1], rfl, fun rest => ?_⟩
    refine decodeChar?_cons (leading?_three (c.toNat / 0x1000) (by omega)) ?_ (by omega)
    simp only [List.length_cons, List.cons_append, List.nil_append, tailValue?_cons]
    rw [List.length_nil, tailValue?]
    congr 1
    omega
  · refine ⟨_, [tail c.toNat 0x1000, tail c.toNat 0x40, tail c.toNat 1], rfl, fun rest => ?_⟩
    refine decodeChar?_cons (leading?_four (c.toNat / 0x40000) (by omega)) ?_ (by omega)
    simp only [List.length_cons, List.cons_append, List.nil_append, tailValue?_cons]
    rw [List.length_nil, tailValue?]
    congr 1
    omega

theorem scan_append (bytes rest : List UInt8) : scan (bytes ++ rest) bytes.length = scan rest 0 := by
  induction bytes with
  | nil => rfl
  | cons b bytes ih => rw [List.length_cons, List.cons_append, scan, ih]

theorem scan_encode (t : Text) : scan (encode t) 0 = t.map some := by
  induction t with
  | nil => rfl
  | cons c t ih =>
    obtain ⟨b, tail, hc, hdecode⟩ := exists_encodeChar c
    have hencode : encode (c :: t) = b :: (tail ++ encode t) := by
      rw [encode, List.flatMap_cons, hc]
      rfl
    rw [hencode, scan]
    simp only [hdecode, scan_append, ih, List.map_cons]

theorem decode?_encode (t : Text) : decode? (encode t) = some t := by
  rw [decode?, scan_encode]
  induction t with
  | nil => rfl
  | cons c t ih => simp [List.mapM_cons, ih]

end Kudos.Utf8
