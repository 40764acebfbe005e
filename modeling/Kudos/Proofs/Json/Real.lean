import Mathlib
import Kudos.Proofs.Json.Numeral

/-!
# Double precision numbers in JSON text

The digits of a number of the format are never none, for the number exceeds the least step that is
tried (`le_of_decimalOrder`). So every such number is written as a numeral with a fraction or an
exponent, and is read as a double precision number again.
-/

namespace Kudos

namespace Binary64

variable {x : Binary64} {num den k m : Nat} {e : Int}

/-- Whether a number is one of the format, as far as small numbers are concerned. -/
def InFormat : Binary64 → Prop
  | finite _ _ e => leastExponent ≤ e
  | _ => True

theorem inFormat_ofRatio (negative : Bool) (num den : Nat) : (ofRatio negative num den).InFormat := by
  unfold ofRatio
  split
  · exact le_refl leastExponent
  · dsimp only
    have hleast : leastExponent ≤ max (binaryOrder num den - (precision - 1)) leastExponent :=
      le_max_right _ _
    split_ifs
    · trivial
    · show leastExponent ≤ _ + 1
      omega
    · trivial
    · exact hleast

theorem inFormat_ofDecimal (negative : Bool) (digits : Nat) (e : Int) :
    (ofDecimal negative digits e).InFormat := by
  unfold ofDecimal
  dsimp only
  split_ifs
  · exact le_refl leastExponent
  · trivial
  · exact inFormat_ofRatio ..

/-! ## There are digits -/

/-- Digits of a number that is not zero. -/
structure Digits.Proper (ds : Digits) : Prop where
  isDigit : ∀ c ∈ ds.digits, c.isDigit
  ne_nil : ds.digits ≠ []
  head?_ne : ds.digits.head? ≠ some '0'

theorem Digits.proper_ofScaled (h : k ≠ 0) (e : Int) : (ofScaled k e).Proper := by
  have hkept : Text.dropRightWhile (· == '0') (Text.ofNat k) <+: Text.ofNat k :=
    List.rdropWhile_prefix _ _
  have hhead := Text.head?_ofNat h
  have hne : Text.dropRightWhile (· == '0') (Text.ofNat k) ≠ [] := by
    intro hnil
    have hzeros := List.rdropWhile_eq_nil_iff.mp hnil
    obtain ⟨d, ds, hds⟩ := List.exists_cons_of_ne_nil (Text.ofNat_ne_nil k)
    have hd := hzeros d (by simp [hds])
    simp [hds] at hhead
    exact hhead (by simpa using hd)
  refine ⟨fun c hc => Text.isDigit_of_mem_ofNat (hkept.subset hc), hne, ?_⟩
  obtain ⟨d, ds, hds⟩ := List.exists_cons_of_ne_nil hne
  obtain ⟨t, ht⟩ := hkept
  rw [hds, List.cons_append] at ht
  show (Text.dropRightWhile (· == '0') (Text.ofNat k)).head? ≠ some '0'
  rw [hds]
  rwa [← ht] at hhead

/-- A power of ten that the fraction is not below. -/
theorem mul_pow_le_of_decimalOrder (hden : 0 < den) (h : den ≤ num * 10 ^ 400) :
    ∃ l : Nat, decimalOrder num den = l + 1 - 400 ∧ den * 10 ^ l ≤ num * 10 ^ 400 := by
  unfold decimalOrder Text.ofNat
  have hpow : Nat.pow 10 = fun n => 10 ^ n := rfl
  rw [hpow]
  set q := num * 10 ^ 400 / den
  have hone : 1 ≤ q := (Nat.one_le_div_iff hden).mpr h
  have hlength : 0 < (Nat.toDigits 10 q).length := Nat.length_toDigits_pos
  refine ⟨(Nat.toDigits 10 q).length - 1, ?_, ?_⟩
  · rw [Nat.cast_pred hlength, sub_add_cancel]
  · have hpow : 10 ^ ((Nat.toDigits 10 q).length - 1) ≤ q := by
      by_cases hsingle : (Nat.toDigits 10 q).length = 1
      · rw [hsingle]
        exact hone
      · have hpos : 0 < (Nat.toDigits 10 q).length - 1 :=
          Nat.sub_pos_of_lt (lt_of_le_of_ne hlength (Ne.symm hsingle))
        rw [← not_lt, ← Nat.length_toDigits_le_iff (by decide) hpos]
        exact not_le.mpr (Nat.sub_lt hlength Nat.one_pos)
    calc den * 10 ^ ((Nat.toDigits 10 q).length - 1) ≤ den * q := Nat.mul_le_mul_left _ hpow
      _ ≤ num * 10 ^ 400 := Nat.mul_div_le _ _

/-- A step is a whole number or a fraction. -/
theorem exists_step (l j : Nat) :
    (∃ i : Nat, (l : Int) + 1 - 400 - (j + 1) = i ∧ l = i + j + 400) ∨
      ∃ i : Nat, (l : Int) + 1 - 400 - (j + 1) = -i ∧ 0 < i ∧ i + l = 400 + j := by
  by_cases h : 400 + j ≤ l
  · exact .inl ⟨l - 400 - j, by omega, by omega⟩
  · exact .inr ⟨400 + j - l, by omega, by omega, by omega⟩

/-- The steps that are tried are no greater than the number. -/
theorem le_of_decimalOrder (hden : 0 < den) (h : den ≤ num * 10 ^ 400) {count : Int}
    (hcount : 1 ≤ count) :
    let nd := scaleDown 10 num den (decimalOrder num den - count)
    0 < nd.2 ∧ nd.2 ≤ nd.1 := by
  obtain ⟨j, rfl⟩ : ∃ j : Nat, count = j + 1 :=
    ⟨(count - 1).toNat, by rw [Int.toNat_of_nonneg (Int.sub_nonneg.mpr hcount), sub_add_cancel]⟩
  obtain ⟨l, horder, hle⟩ := mul_pow_le_of_decimalOrder hden h
  rw [horder]
  unfold scaleDown
  simp only [Nat.pow_eq]
  rcases exists_step l j with ⟨i, hi, hl⟩ | ⟨i, hi, hpos, hsum⟩
  · rw [hi, if_pos (Int.natCast_nonneg i), Int.toNat_natCast]
    have hscaled : den * 10 ^ i * 10 ^ j ≤ num := by
      rw [hl, pow_add, pow_add, ← mul_assoc, ← mul_assoc] at hle
      exact Nat.le_of_mul_le_mul_right hle (by positivity)
    exact ⟨Nat.mul_pos hden (by positivity), le_trans (Nat.le_mul_of_pos_right _ (by positivity)) hscaled⟩
  · rw [hi, if_neg (by simpa using hpos.ne'), neg_neg, Int.toNat_natCast]
    refine ⟨hden, Nat.le_of_mul_le_mul_right (?_ : _ ≤ _ * 10 ^ l) (by positivity)⟩
    rw [mul_assoc, ← pow_add, hsum, pow_add, ← mul_assoc]
    exact le_trans hle (Nat.le_mul_of_pos_right _ (by positivity))

theorem roundQuotient_ne_zero (hden : 0 < den) (h : den ≤ num) : roundQuotient num den ≠ 0 := by
  have hone : 1 ≤ num / den := (Nat.one_le_div_iff hden).mpr h
  unfold roundQuotient
  dsimp only
  split <;> omega

theorem neighbour?_ne_zero (hm : m ≠ 0) (h : neighbour? (finite false m e) num den e' = some k) :
    k ≠ 0 := by
  rintro rfl
  have hfound := List.find?_some h
  have hzero : ofDecimal false 0 e' = finite false m e := of_decide_eq_true hfound
  have : zero false = finite false m e := by simpa [ofDecimal] using hzero
  cases this
  exact hm rfl

theorem proper_fewestDigits (hm : m ≠ 0) {order : Int}
    (hsteps : ∀ count : Int, 1 ≤ count → 0 < (scaleDown 10 num den (order - count)).2 ∧
      (scaleDown 10 num den (order - count)).2 ≤ (scaleDown 10 num den (order - count)).1)
    (fuel : Nat) {count : Int} (hcount : 1 ≤ count) :
    (fewestDigits (finite false m e) num den order fuel count).Proper := by
  induction fuel generalizing count with
  | zero =>
    obtain ⟨hpos, hle⟩ := hsteps count hcount
    rw [fewestDigits]
    exact Digits.proper_ofScaled (roundQuotient_ne_zero hpos hle) _
  | succ fuel ih =>
    rw [fewestDigits]
    split
    · next k hk => exact Digits.proper_ofScaled (neighbour?_ne_zero hm hk) _
    · exact ih (by omega)

theorem two_pow_le_ten_pow {n : Nat} (h : k ≤ 3 * n) : 2 ^ k ≤ 10 ^ n :=
  calc 2 ^ k ≤ 2 ^ (3 * n) := Nat.pow_le_pow_right (by decide) h
    _ = 8 ^ n := pow_mul 2 3 n
    _ ≤ 10 ^ n := Nat.pow_le_pow_left (by decide) n

/-- The numbers of the format exceed the power of ten from which on their digits are counted. -/
theorem le_fraction (hm : m ≠ 0) (he : leastExponent ≤ e) :
    0 < (fraction m e).2 ∧ (fraction m e).2 ≤ (fraction m e).1 * 10 ^ 400 := by
  have hone : 1 ≤ m := Nat.one_le_iff_ne_zero.mpr hm
  unfold fraction scaleDown
  simp only [Nat.pow_eq, one_mul]
  split
  · have hexp : (-e).toNat ≤ 3 * 400 := by
      unfold leastExponent at he
      omega
    exact ⟨by positivity, le_trans (two_pow_le_ten_pow hexp) (Nat.le_mul_of_pos_left _ hone)⟩
  · exact ⟨Nat.one_pos, Nat.succ_le_of_lt (by positivity)⟩

theorem proper_shortestDigits (hm : m ≠ 0) (he : leastExponent ≤ e) :
    (shortestDigits m e).Proper := by
  obtain ⟨hden, hle⟩ := le_fraction hm he
  rw [shortestDigits]
  exact proper_fewestDigits hm (fun count => le_of_decimalOrder hden hle) 16 (by decide)

/-! ## The written form -/

open Json (Numeral)

/-- A numeral with a fraction or an exponent is read as a double precision number. -/
theorem exists_value_eq (n : Numeral) (h : n.part ≠ [] ∨ n.exponent ≠ none) :
    ∃ y, n.value = .real y := by
  unfold Numeral.value Numeral.exponentValue
  cases hpart : n.part with
  | nil =>
    cases hexponent : n.exponent with
    | none => simp [hpart, hexponent] at h
    | some e => exact ⟨_, rfl⟩
  | cons d ds => cases n.exponent <;> exact ⟨_, rfl⟩

theorem exists_exponentText (e : Int) :
    ∃ (negative : Bool) (ds : Text), exponentText e = (if negative then '-' else '+') :: ds ∧
      (∀ c ∈ ds, c.isDigit) ∧ ds ≠ [] := by
  refine ⟨decide (e < 0), Text.padLeft 2 '0' (Text.ofNat e.natAbs), ?_, ?_, ?_⟩
  · simp [exponentText]
  · intro c hc
    rcases List.mem_append.mp hc with hc | hc
    · rw [List.eq_of_mem_replicate hc]
      rfl
    · exact Text.isDigit_of_mem_ofNat hc
  · simp [Text.padLeft, Text.ofNat_ne_nil]

/-- Digits that are written without exponent. -/
theorem exists_positional {ds : Digits} (h : ds.Proper) :
    ∃ n : Numeral, n.negative = false ∧ n.part ≠ [] ∧
      n.text =
        if ds.point ≤ 0 then ['0', '.'] ++ List.replicate (-ds.point).toNat '0' ++ ds.digits
        else
          let whole := ds.digits.take ds.point.toNat
          let padded := whole ++ List.replicate (ds.point.toNat - whole.length) '0'
          match ds.digits.drop ds.point.toNat with
          | [] => padded ++ ['.', '0']
          | part => padded ++ '.' :: part := by
  obtain ⟨hdigit, hne, hhead⟩ := h
  have hzeros : ∀ k, ∀ c ∈ List.replicate k '0', c.isDigit := by
    intro k c hc
    rw [List.eq_of_mem_replicate hc]
    rfl
  have hzero : ∀ c ∈ ['0'], c.isDigit := hzeros 1
  by_cases hpoint : ds.point ≤ 0
  · have hpart : ∀ c ∈ List.replicate (-ds.point).toNat '0' ++ ds.digits, c.isDigit :=
      fun c hc => (List.mem_append.mp hc).elim (hzeros _ c) (hdigit c)
    refine ⟨{ negative := false, whole := ['0'],
              part := List.replicate (-ds.point).toNat '0' ++ ds.digits, isDigit_whole := hzero,
              isDigit_part := hpart, whole_ne_nil := by simp, head?_whole := .inr rfl },
      rfl, by simp [hne], ?_⟩
    rw [if_pos hpoint]
    simp [Numeral.text, Numeral.partText, Numeral.exponentText, hne]
  · rw [if_neg hpoint]
    dsimp only
    set padded := ds.digits.take ds.point.toNat ++
      List.replicate (ds.point.toNat - (ds.digits.take ds.point.toNat).length) '0' with hpadded
    -- the digits before the point start like all digits
    have hstart : padded.head? = ds.digits.head? := by
      obtain ⟨d, tail, hds⟩ := List.exists_cons_of_ne_nil hne
      obtain ⟨p, hp⟩ : ∃ p, ds.point.toNat = p + 1 := ⟨ds.point.toNat - 1, by omega⟩
      simp [hpadded, hds, hp]
    have hpadded_ne : padded ≠ [] := by
      intro hnil
      rw [hnil] at hstart
      exact hne (List.head?_eq_none_iff.mp hstart.symm)
    have hpadded_digit : ∀ c ∈ padded, c.isDigit := fun c hc =>
      (List.mem_append.mp hc).elim (fun hc => hdigit c (List.mem_of_mem_take hc)) (hzeros _ c)
    have hpadded_head : padded.head? ≠ some '0' := hstart ▸ hhead
    cases hpart : ds.digits.drop ds.point.toNat with
    | nil =>
      refine ⟨{ negative := false, whole := padded, part := ['0'], isDigit_whole := hpadded_digit,
                isDigit_part := hzero, whole_ne_nil := hpadded_ne,
                head?_whole := .inl hpadded_head }, rfl, by simp, ?_⟩
      simp [Numeral.text, Numeral.partText, Numeral.exponentText]
    | cons b part =>
      have hpart_digit : ∀ c ∈ b :: part, c.isDigit :=
        fun c hc => hdigit c (List.mem_of_mem_drop (hpart ▸ hc))
      refine ⟨{ negative := false, whole := padded, part := b :: part,
                isDigit_whole := hpadded_digit, isDigit_part := hpart_digit,
                whole_ne_nil := hpadded_ne, head?_whole := .inl hpadded_head }, rfl, by simp, ?_⟩
      simp [Numeral.text, Numeral.partText, Numeral.exponentText]

/-- Digits that are written with an exponent. -/
theorem exists_exponential {ds : Digits} (h : ds.Proper) (e : Int) :
    ∃ n : Numeral, n.negative = false ∧ n.exponent ≠ none ∧
      n.text =
        match ds.digits with
        | [] => []
        | [d] => d :: 'e' :: exponentText e
        | d :: part => d :: '.' :: part ++ 'e' :: exponentText e := by
  obtain ⟨hdigit, hne, hhead⟩ := h
  obtain ⟨negative, es, hes, hes_digit, hes_ne⟩ := exists_exponentText e
  obtain ⟨d, part, hds⟩ := List.exists_cons_of_ne_nil hne
  rw [hds] at hdigit hhead ⊢
  have hwhole : ∀ c ∈ [d], c.isDigit := by
    intro c hc
    exact hdigit c (List.mem_singleton.mp hc ▸ List.mem_cons_self)
  refine ⟨{ negative := false, whole := [d], part := part, exponent := some (negative, es),
            isDigit_whole := hwhole, isDigit_part := fun c hc => hdigit c (List.mem_cons_of_mem _ hc),
            isDigit_exponent := by simpa using hes_digit, whole_ne_nil := by simp,
            exponent_ne_nil := by simpa using hes_ne, head?_whole := .inl (by simpa using hhead) },
    rfl, by simp, ?_⟩
  rw [hes]
  cases part <;> simp [Numeral.text, Numeral.partText, Numeral.exponentText]

/-- The shortest layout writes digits as a numeral that is no integer. -/
theorem exists_numeral_write {ds : Digits} (h : ds.Proper) :
    ∃ n : Numeral, n.negative = false ∧ (n.part ≠ [] ∨ n.exponent ≠ none) ∧
      n.text = shortestLayout.write ds := by
  unfold Layout.write
  dsimp only
  split
  · obtain ⟨n, hsign, hpart, htext⟩ := exists_positional h
    exact ⟨n, hsign, .inl hpart, htext⟩
  · obtain ⟨n, hsign, hexponent, htext⟩ := exists_exponential h (ds.point - 1)
    exact ⟨n, hsign, .inr hexponent, htext⟩

/-- A finite number of the format is written as a numeral that is no integer. -/
theorem exists_numeral_shortest (negative : Bool) (he : leastExponent ≤ e) :
    ∃ n : Numeral, n.text = (finite negative m e).shortest ∧ (n.part ≠ [] ∨ n.exponent ≠ none) := by
  have signed : ∀ n : Numeral, n.negative = false →
      ({ n with negative } : Numeral).text = (if negative then ['-'] else []) ++ n.text := by
    intro n hn
    simp [Numeral.text, Numeral.partText, Numeral.exponentText, hn]
  cases m with
  | zero =>
    have hzero : ∀ c ∈ ['0'], c.isDigit := by
      intro c hc
      rw [List.mem_singleton.mp hc]
      rfl
    refine ⟨{ negative, whole := ['0'], part := ['0'], isDigit_whole := hzero,
              isDigit_part := hzero, whole_ne_nil := by simp, head?_whole := .inr rfl }, ?_,
      .inl (by simp)⟩
    cases negative <;> rfl
  | succ m =>
    obtain ⟨n, hsign, hreal, htext⟩ := exists_numeral_write (proper_shortestDigits m.succ_ne_zero he)
    refine ⟨{ n with negative }, ?_, hreal⟩
    rw [signed n hsign, htext]
    rfl

end Binary64

end Kudos
