import Mathlib
import Kudos.Json.Reader
import Kudos.Number.Reader
import Kudos.Proofs.Text.Basic

/-!
# Decimal digits

A number in decimal digits starts with a zero only if it is zero, and its value is read back from its
digits. A scanner of digits stops exactly behind them if no digit follows, and a reader of typed
numbers reads them unless they are too many (`Number.integer?_ofNat`).
-/

namespace Kudos

variable {c : Char} {n m : Nat} {ds rest : Text}

namespace Text

theorem isDigit_of_mem_ofNat (h : c ∈ ofNat n) : c.isDigit :=
  Nat.isDigit_of_mem_toDigits (by decide) (by decide) h

theorem ofNat_ne_nil (n : Nat) : ofNat n ≠ [] :=
  Nat.toDigits_ne_nil

theorem ofNat_injective (h : ofNat n = ofNat m) : n = m := by
  have hvalue := congrArg (Nat.ofDigitChars 10 · 0) h
  simpa [ofNat] using hvalue

/-- Only zero starts with a zero. -/
theorem head?_ofNat (h : n ≠ 0) : (ofNat n).head? ≠ some '0' := by
  induction n using Nat.strong_induction_on with
  | _ n ih =>
    rw [ofNat, Nat.toDigits_eq_if (by decide)]
    by_cases hlt : n < 10
    · rw [if_pos hlt]
      simpa using h
    · rw [if_neg hlt, List.head?_append_of_ne_nil _ (Nat.toDigits_ne_nil)]
      exact ih (n / 10) (by omega) (by omega)

/-- The number of digits tells how large a number is. -/
theorem length_ofNat_le_iff {k : Nat} (hk : 0 < k) : (ofNat n).length ≤ k ↔ n < 10 ^ k :=
  Nat.length_toDigits_le_iff (by decide) hk

theorem length_ofNat_mono (h : n ≤ m) : (ofNat n).length ≤ (ofNat m).length := by
  have hpos : 0 < (ofNat m).length := List.length_pos_iff.mpr (ofNat_ne_nil m)
  exact (length_ofNat_le_iff hpos).mpr (lt_of_le_of_lt h ((length_ofNat_le_iff hpos).mp le_rfl))

theorem isDigit_of_mem_ofInt {n : Int} (h : c ∈ ofInt n) : c = '-' ∨ c.isDigit := by
  cases n with
  | ofNat n => exact .inr (isDigit_of_mem_ofNat h)
  | negSucc n =>
    rcases List.mem_cons.mp h with rfl | h
    · exact .inl rfl
    · exact .inr (isDigit_of_mem_ofNat h)

end Text

namespace Json

/-- The scanner of digits stops where they end. -/
theorem spanDigits_append (hds : ∀ c ∈ ds, c.isDigit) (hrest : ∀ c ∈ rest.head?, ¬ c.isDigit) :
    spanDigits (ds ++ rest) = (ds, rest) := by
  have hstop : rest.takeWhile Char.isDigit = [] ∧ rest.dropWhile Char.isDigit = rest := by
    cases rest with
    | nil => exact ⟨rfl, rfl⟩
    | cons c rest =>
      have hc : ¬ c.isDigit := hrest c rfl
      exact ⟨List.takeWhile_cons_of_neg hc, List.dropWhile_cons_of_neg hc⟩
  rw [spanDigits, List.span_eq_takeWhile_dropWhile, List.takeWhile_append_of_pos hds,
    List.dropWhile_append_of_pos hds, hstop.1, hstop.2, List.append_nil]

theorem decimal_ofNat (n : Nat) : exponent?.decimal (Text.ofNat n) = n := by
  have hvalue : Nat.ofDigitChars 10 (Text.ofNat n) 0 = n := Nat.ofDigitChars_ten_toDigits
  rwa [Nat.ofDigitChars_eq_foldl] at hvalue

end Json

namespace Number

open Text

theorem toNat_of_isDigit (h : c.isDigit) : 0x30 ≤ c.toNat ∧ c.toNat < 0x3A := by
  rw [Char.isDigit, Bool.and_eq_true, decide_eq_true_eq, decide_eq_true_eq] at h
  have hlow : (0x30 : Nat) ≤ c.val.toNat := h.1
  have hhigh : c.val.toNat ≤ 0x39 := h.2
  exact ⟨hlow, by unfold Char.toNat; omega⟩

theorem digitValue?_of_isDigit (h : c.isDigit) : digitValue? c = some (c.toNat - '0'.toNat) := by
  obtain ⟨hlow, hhigh⟩ := toNat_of_isDigit h
  unfold digitValue? digitZeros
  rw [List.find?_cons_of_pos (by simpa using ⟨hlow, by omega⟩)]
  rfl

theorem digitsFrom_of_isDigit (hds : ∀ c ∈ ds, c.isDigit) (behindDigit : Bool) :
    digitsFrom behindDigit ds = (ds.map fun c => c.toNat - '0'.toNat, []) := by
  induction ds generalizing behindDigit with
  | nil => rfl
  | cons c ds ih =>
    rw [digitsFrom, digitValue?_of_isDigit (hds c List.mem_cons_self)]
    simp only [ih fun c hc => hds c (List.mem_cons_of_mem _ hc), List.map_cons]

theorem not_isBlank_of_isDigit (h : c.isDigit) : ¬ isBlank c := by
  refine not_isBlank_of_isWord ?_
  obtain ⟨hlow, hhigh⟩ := toNat_of_isDigit h
  unfold isWord isAsciiWord Char.isAlphanum
  rw [if_pos (by omega), h]
  simp

/-- So many digits are not enough for a larger number. -/
theorem digitsValue_lt {ds : List Nat} (hds : ∀ d ∈ ds, d < 10) : digitsValue ds < 10 ^ ds.length := by
  have folded : ∀ (ds : List Nat) (n : Nat), (∀ d ∈ ds, d < 10) →
      ds.foldl (fun n d => 10 * n + d) n < (n + 1) * 10 ^ ds.length := by
    intro ds
    induction ds with
    | nil => intro n _; simp
    | cons d ds ih =>
      intro n hds
      obtain ⟨hd, hds⟩ := List.forall_mem_cons.mp hds
      have hrest := ih (10 * n + d) hds
      have hstep : (10 * n + d + 1) * 10 ^ ds.length ≤ (10 * (n + 1)) * 10 ^ ds.length :=
        Nat.mul_le_mul_right _ (by omega)
      calc (d :: ds).foldl (fun n d => 10 * n + d) n
          = ds.foldl (fun n d => 10 * n + d) (10 * n + d) := rfl
        _ < (10 * n + d + 1) * 10 ^ ds.length := hrest
        _ ≤ (10 * (n + 1)) * 10 ^ ds.length := hstep
        _ = (n + 1) * 10 ^ (d :: ds).length := by rw [List.length_cons, pow_succ]; ring
  have hall := folded ds 0 hds
  rwa [Nat.zero_add, Nat.one_mul] at hall

theorem lt_digitCount_pow {k : Nat} (hk : 0 < k) : k < digitCount (10 ^ k) := by
  unfold digitCount
  rw [Int.natAbs_pow, ← not_le, Text.length_ofNat_le_iff hk]
  exact lt_irrefl _

theorem digitCount_le_of_lt {n k : Nat} (hk : 0 < k) (hlt : n < 10 ^ k) (negative : Bool) :
    digitCount (if negative then -(n : Int) else n) ≤ k := by
  have habs : (if negative then -(n : Int) else n).natAbs = n := by cases negative <;> simp
  rw [digitCount, habs]
  exact (length_ofNat_le_iff hk).mpr hlt

/-- A number that is read from so many digits has no more of them. -/
theorem digitCount_decimal_le (hds : ∀ c ∈ ds, c.isDigit) (hne : ds ≠ []) (negative : Bool) :
    digitCount (if negative then -(Json.exponent?.decimal ds : Int) else Json.exponent?.decimal ds) ≤
      ds.length := by
  have hvalue : Json.exponent?.decimal ds = digitsValue (ds.map fun c => c.toNat - '0'.toNat) := by
    rw [digitsValue, List.foldl_map]
    rfl
  have hlt : Json.exponent?.decimal ds < 10 ^ ds.length := by
    rw [hvalue, ← List.length_map (fun c : Char => c.toNat - '0'.toNat)]
    refine digitsValue_lt fun d hd => ?_
    obtain ⟨c, hc, rfl⟩ := List.mem_map.mp hd
    have hc := toNat_of_isDigit (hds c hc)
    have hzero : '0'.toNat = 0x30 := rfl
    omega
  exact digitCount_le_of_lt (List.length_pos_iff.mpr hne) hlt negative

theorem digitValue?_lt {c : Char} {d : Nat} (h : digitValue? c = some d) : d < 10 := by
  obtain ⟨first, hfind, rfl⟩ := Option.map_eq_some_iff.mp h
  have hbounds := List.find?_some hfind
  simp only [Bool.and_eq_true, decide_eq_true_eq] at hbounds
  omega

theorem digitsFrom_lt (behindDigit : Bool) (t : Text) : ∀ d ∈ (digitsFrom behindDigit t).1, d < 10 := by
  fun_induction digitsFrom behindDigit t with
  | case1 => simp
  | case2 behindDigit c rest d hd ds left hrest ih =>
    rw [hrest] at ih
    exact List.forall_mem_cons.mpr ⟨digitValue?_lt hd, ih⟩
  | case3 behindDigit c rest hd hskip ih => exact ih
  | case4 behindDigit c rest hd hskip => simp

/-- An integer that is read from decimal digits can be written in them. -/
theorem digitCount_integer?_le {t : Text} {n : Int} (h : integer? t = some n) : digitCount n ≤ mostDigits := by
  unfold integer? at h
  dsimp only at h
  split at h
  · next ds hdigits =>
    split at h
    · cases h
    · next hcount =>
      simp only [Bool.or_eq_true, List.isEmpty_iff, decide_eq_true_eq, not_or, not_lt] at hcount
      have hds : ∀ d ∈ ds, d < 10 := by
        have hall := digitsFrom_lt false (leadingSign (trim t)).2
        rwa [show digitsFrom false (leadingSign (trim t)).2 = (ds, []) from hdigits] at hall
      cases h
      exact le_trans (digitCount_le_of_lt (List.length_pos_iff.mpr hcount.1) (digitsValue_lt hds) _) hcount.2
  · cases h

theorem leadingSign_of_isDigit (hds : ∀ c ∈ ds, c.isDigit) : leadingSign ds = (false, ds) := by
  unfold leadingSign
  split
  · exact absurd (hds '-' (by simp)) (by decide)
  · exact absurd (hds '+' (by simp)) (by decide)
  · rfl

/-- An integer that is not too long is read back from its digits. -/
theorem integer?_ofNat (hlength : (ofNat n).length ≤ mostDigits) : integer? (ofNat n) = some (n : Int) := by
  have hdigits : ∀ c ∈ ofNat n, c.isDigit := fun _ => isDigit_of_mem_ofNat
  have htrim : trim (ofNat n) = ofNat n :=
    trim_eq_self (fun c hc => not_isBlank_of_isDigit (hdigits c (List.mem_of_mem_head? hc)))
      fun c hc => not_isBlank_of_isDigit (hdigits c (List.mem_of_getLast? hc))
  have hvalue : digitsValue ((ofNat n).map fun c => c.toNat - '0'.toNat) = n := by
    have hread : Nat.ofDigitChars 10 (ofNat n) 0 = n := Nat.ofDigitChars_ten_toDigits
    rw [Nat.ofDigitChars_eq_foldl] at hread
    rw [digitsValue, List.foldl_map]
    exact hread
  unfold integer? leadingDigits
  rw [htrim, leadingSign_of_isDigit hdigits]
  dsimp only
  rw [digitsFrom_of_isDigit hdigits]
  dsimp only
  rw [if_neg (by simpa [ofNat_ne_nil] using hlength), if_neg (by decide), hvalue]

end Number

end Kudos
