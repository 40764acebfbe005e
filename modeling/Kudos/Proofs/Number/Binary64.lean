import Mathlib
import Kudos.Number.Binary64

/-!
# The greatest double precision number

The greatest finite number of the format is `2 ^ 1024 - 2 ^ 971`. An integer has a nearest finite number
as long as it stays below the middle between that one and `2 ^ 1024` (`ofInt?_eq_none_iff`): the middle
itself is rounded up, to the even mantissa.
-/

namespace Kudos.Binary64

variable {num half top : Nat} {n : Int}

/-- A quotient is rounded up to an even number from the middle below that number on. -/
theorem roundQuotient_eq_iff (heven : top % 2 = 0) (hlt : num < 2 * half * top) :
    roundQuotient num (2 * half) = top ↔ 2 * half * top ≤ num + half := by
  have hhalf : 0 < half := by
    rcases Nat.eq_zero_or_pos half with rfl | h
    · simp at hlt
    · exact h
  have hdiv := Nat.div_add_mod num (2 * half)
  have hmod := Nat.mod_lt num (show 0 < 2 * half by omega)
  have hq : num / (2 * half) < top := Nat.div_lt_of_lt_mul hlt
  unfold roundQuotient
  generalize num / (2 * half) = q at *
  generalize num % (2 * half) = r at *
  dsimp only
  by_cases hlast : top = q + 1
  · have hsplit : 2 * half * top = 2 * half * q + 2 * half := by rw [hlast, Nat.mul_succ]
    split_ifs with hup <;>
      simp only [Bool.or_eq_true, Bool.and_eq_true, decide_eq_true_eq] at hup <;> omega
  · have hbelow : 2 * half * (q + 2) ≤ 2 * half * top := Nat.mul_le_mul_left _ (by omega)
    have hsplit : 2 * half * (q + 2) = 2 * half * q + 4 * half := by ring
    constructor
    · intro h
      split_ifs at h <;> omega
    · intro h
      omega

theorem binaryOrder_one (h : num ≠ 0) : binaryOrder num 1 = Nat.log2 num := by
  have hle : 2 ^ Nat.log2 num ≤ num := Nat.log2_self_le h
  have hlog : Nat.log2 1 = 0 := rfl
  simp [binaryOrder, scaleDown, hlog, hle]

/-- A whole number is infinite for the format if its binary order is too large, or becomes so by
rounding. -/
theorem ofRatio_one_eq_infinity (negative : Bool) (h : num ≠ 0) :
    ofRatio negative num 1 = infinity negative ↔
      1023 < Nat.log2 num ∨ Nat.log2 num = 1023 ∧ roundQuotient num (2 ^ 971) = 2 ^ 53 := by
  unfold ofRatio
  rw [if_neg h, binaryOrder_one h]
  generalize Nat.log2 num = order
  have hleast : max ((order : Int) - ((precision : Int) - 1)) leastExponent = order - 52 := by
    unfold precision leastExponent
    omega
  have hgreatest : greatestExponent = 971 := rfl
  have htop : Nat.pow 2 precision = 2 ^ 53 := rfl
  dsimp only
  rw [hleast, hgreatest, htop]
  have hscaled : ∀ k : Nat, order = k + 52 →
      roundQuotient (scaleDown 2 num 1 (order - 52)).1 (scaleDown 2 num 1 (order - 52)).2 =
        roundQuotient num (2 ^ k) := by
    rintro k rfl
    have hpos : (0 : Int) ≤ ((k + 52 : Nat) : Int) - 52 := by omega
    have hexp : (((k + 52 : Nat) : Int) - 52).toNat = k := by omega
    rw [scaleDown, if_pos hpos, hexp, Nat.one_mul, Nat.pow_eq]
  have hlast := hscaled 971
  generalize roundQuotient (scaleDown 2 num 1 (order - 52)).1 (scaleDown 2 num 1 (order - 52)).2 =
    mantissa at *
  by_cases hround : mantissa = 2 ^ 53
  · rw [if_pos hround]
    dsimp only
    by_cases hlarge : (971 : Int) < order - 52 + 1
    · rw [if_pos hlarge]
      refine iff_of_true rfl ?_
      by_cases horder : order = 1023
      · exact .inr ⟨horder, (hlast horder).symm.trans hround⟩
      · exact .inl (by omega)
    · rw [if_neg hlarge]
      refine iff_of_false (by simp) ?_
      omega
  · rw [if_neg hround]
    dsimp only
    by_cases hlarge : (971 : Int) < order - 52
    · rw [if_pos hlarge]
      exact iff_of_true rfl (.inl (by omega))
    · rw [if_neg hlarge]
      refine iff_of_false (by simp) ?_
      rintro (horder | ⟨horder, hq⟩)
      · omega
      · exact hround ((hlast horder).trans hq)

theorem ofRatio_one_eq_infinity_iff (negative : Bool) (h : num ≠ 0) :
    ofRatio negative num 1 = infinity negative ↔ 2 ^ 1024 ≤ num + 2 ^ 970 := by
  have hlow : 2 ^ Nat.log2 num ≤ num := Nat.log2_self_le h
  have hhigh : num < 2 ^ (Nat.log2 num + 1) := Nat.lt_log2_self
  have hden : (2 : Nat) ^ 971 = 2 * 2 ^ 970 := by decide +kernel
  have htop : (2 : Nat) ^ 1024 = 2 * 2 ^ 970 * 2 ^ 53 := by decide +kernel
  rw [ofRatio_one_eq_infinity negative h]
  rcases Nat.lt_trichotomy (Nat.log2 num) 1023 with hlt | heq | hgt
  · have hpow := Nat.pow_le_pow_right (n := 2) (by omega) (show Nat.log2 num + 1 ≤ 1023 from hlt)
    have hbelow := hhigh.trans_le hpow
    have hmiddle : (2 : Nat) ^ 1023 + 2 ^ 970 < 2 ^ 1024 := by decide +kernel
    omega
  · have hlast : 1023 + 1 = 1024 := rfl
    rw [heq, hlast, htop] at hhigh
    have hround := roundQuotient_eq_iff (by decide) hhigh
    rw [← htop, ← hden] at hround
    rw [← hround]
    refine ⟨?_, fun h => .inr ⟨heq, h⟩⟩
    rintro (hgt | ⟨-, h⟩)
    · exact absurd heq (Nat.ne_of_gt hgt)
    · exact h
  · have hpow := Nat.pow_le_pow_right (n := 2) (by omega) (show 1024 ≤ Nat.log2 num from hgt)
    have habove := hpow.trans hlow
    exact iff_of_true (.inl hgt) (by omega)

theorem eq_of_ofRatio_eq_infinity {negative b : Bool} {den : Nat}
    (h : ofRatio negative num den = infinity b) : b = negative := by
  unfold ofRatio at h
  split_ifs at h
  · cases h
  · dsimp only at h
    split_ifs at h <;> cases h <;> rfl

/-- An integer has no finite number nearest to it from `2 ^ 1024 - 2 ^ 970` on. -/
theorem ofInt?_eq_none_iff : ofInt? n = none ↔ 2 ^ 1024 - 2 ^ 970 ≤ n.natAbs := by
  have hle : (2 : Nat) ^ 970 < 2 ^ 1024 := by decide +kernel
  by_cases hzero : n.natAbs = 0
  · have hn : ofInt? n = some (zero (decide (n < 0))) := by
      unfold ofInt?
      rw [hzero]
      rfl
    rw [hn]
    refine iff_of_false (by simp) (by omega)
  · have hinf := ofRatio_one_eq_infinity_iff (decide (n < 0)) hzero
    have hnone : ofInt? n = none ↔ ofRatio (decide (n < 0)) n.natAbs 1 = infinity (decide (n < 0)) := by
      unfold ofInt?
      split
      · next b hb => exact iff_of_true rfl (eq_of_ofRatio_eq_infinity hb ▸ hb)
      · next hfinite => exact iff_of_false (by simp) (hfinite _)
    rw [hnone, hinf]
    omega

end Kudos.Binary64
