import Mathlib
import Kudos.Toml.Reader
import Kudos.Proofs.Number.Decimal
import Kudos.Proofs.Toml.Strings

/-!
# Values of a configuration

The values of a documented configuration are strings, integers and truth values. The last two, and the
names of sections and keys, are written with the characters of bare names only, so nothing in the reader
takes them for anything else. What is written for such a value is read as the value (`read_plainText`).
-/

namespace Kudos.Toml

open Text

variable {c d : Char} {t w : Text} {n : Nat} {v : Toml}

/-- Whether a text can stand for itself outside of marks. -/
structure Bare (t : Text) : Prop where
  ne_nil : t ≠ []
  all : ∀ c ∈ t, isBare c

/-- Whether a value is read as it was written. -/
inductive PlainValue : Toml → Prop where
  | string {s : Text} (h : PlainString s) : PlainValue (.string s)
  | int {n : Int} (h : n.natAbs < 2 ^ 1024 - 2 ^ 970) : PlainValue (.int n)
  | bool (b : Bool) : PlainValue (.bool b)

/-- What is written for a string, an integer or a truth value. -/
def plainText : Toml → Text
  | .string s => '"' :: body s ++ ['"']
  | .int n => ofInt n
  | .bool b => if b then "true".toList else "false".toList
  | _ => []

/-- The line of an entry. -/
def entryLine (key : Text) (v : Toml) : Text :=
  key ++ [' ', '=', ' '] ++ plainText v

/-- The line of a header. -/
def headerLine (name : Text) : Text :=
  '[' :: name ++ [']']

/-- The integers that can be numbers with a fraction are not beyond the limit for digits. -/
theorem length_ofNat (h : n < 2 ^ 1024 - 2 ^ 970) : (ofNat n).length ≤ Number.mostDigits := by
  have hle : 2 ^ 1024 - 2 ^ 970 < 10 ^ 4300 := by decide +kernel
  exact Nat.toDigits_length 10 n 4300 (by decide) (by omega)

theorem valueText_eq (hv : PlainValue v) (room : Nat) : valueText room v = .ok (plainText v) := by
  cases hv with
  | string hs => exact stringText_eq hs
  | int h =>
    unfold valueText Number.intText Number.digitCount
    rw [if_neg (Nat.not_lt.mpr (length_ofNat h))]
    rfl
  | bool => rfl

/-! ## Bare texts -/

theorem toNat_of_isAlphanum (hc : c.isAlphanum) : 0x30 ≤ c.toNat ∧ c.toNat < 0x7B := by
  simp only [Char.isAlphanum, Char.isAlpha, Char.isUpper, Char.isLower, Char.isDigit, Bool.or_eq_true,
    Bool.and_eq_true, decide_eq_true_eq, UInt32.le_iff_toNat_le] at hc
  have hval : c.toNat = c.val.toNat := rfl
  have hupper : 'A'.val.toNat = 65 ∧ 'Z'.val.toNat = 90 := ⟨rfl, rfl⟩
  have hlower : 'a'.val.toNat = 97 ∧ 'z'.val.toNat = 122 := ⟨rfl, rfl⟩
  have hdigit : '0'.val.toNat = 48 ∧ '9'.val.toNat = 57 := ⟨rfl, rfl⟩
  omega

/-- Only the hyphen of the bare characters is not a word character. -/
theorem isWord_or_of_isBare (hc : isBare c) : isWord c ∨ c = '-' := by
  simp only [isBare, Bool.or_eq_true, decide_eq_true_eq] at hc
  rcases hc with (hc | rfl) | rfl
  · left
    obtain ⟨-, hhigh⟩ := toNat_of_isAlphanum hc
    unfold isWord isAsciiWord
    rw [if_pos (by omega), hc]
    rfl
  · exact .inl (by decide)
  · exact .inr rfl

theorem not_isBlank_of_isBare (hc : isBare c) : ¬ isBlank c := by
  rcases isWord_or_of_isBare hc with hword | rfl
  · exact not_isBlank_of_isWord hword
  · decide

theorem ne_of_isBare (hc : isBare c) (hd : ¬ isBare d) : c ≠ d :=
  fun heq => hd (heq ▸ hc)

theorem not_isQuote_of_isBare (hc : isBare c) : ¬ isQuote c := by
  simp [isQuote, ne_of_isBare (d := '"') hc (by decide), ne_of_isBare (d := '\'') hc (by decide)]

theorem Bare.not_mem (ht : Bare t) (hd : ¬ isBare d) : d ∉ t :=
  fun hmem => hd (ht.all d hmem)

theorem Bare.trim_eq (ht : Bare t) : trim t = t :=
  trim_eq_self (fun c hc => not_isBlank_of_isBare (ht.all c (List.mem_of_mem_head? hc)))
    fun c hc => not_isBlank_of_isBare (ht.all c (List.mem_of_getLast? hc))

theorem bare_ofNat (n : Nat) : Bare (ofNat n) where
  ne_nil := ofNat_ne_nil n
  all c hc := by
    have hdigit := isDigit_of_mem_ofNat hc
    simp [isBare, Char.isAlphanum, hdigit]

theorem bare_ofInt (n : Int) : Bare (ofInt n) := by
  cases n with
  | ofNat n => exact bare_ofNat n
  | negSucc n => exact ⟨by simp [ofInt], List.forall_mem_cons.mpr ⟨by decide, (bare_ofNat _).all⟩⟩

theorem bare_plainText_bool (b : Bool) : Bare (plainText (.bool b)) := by
  have hall : (plainText (.bool b)).all isBare = true := by cases b <;> rfl
  exact ⟨by cases b <;> simp [plainText], List.all_eq_true.mp hall⟩

/-! ## Integers -/

theorem clock?_eq_none (ht : ':' ∉ t) : clock? t = none := by
  unfold clock?
  split
  · next heq =>
    have hmem : ':' ∈ t.take 8 := by
      rw [heq]
      simp
    exact absurd (List.mem_of_mem_take hmem) ht
  · rfl

theorem date?_eq_none (ht : '-' ∉ t.drop 1) : date? t = none := by
  unfold date?
  rw [if_pos (by simpa using ht)]

theorem digitsIn?_ofNat (n : Nat) : digitsIn? 10 (ofNat n) = some n := by
  have hdigits : ∀ c ∈ ofNat n, c.isDigit := fun _ => isDigit_of_mem_ofNat
  have folded : ∀ (ds : Text) (k : Nat), (∀ c ∈ ds, c.isDigit) →
      ds.foldlM (fun n c => ((digitValue? c).or (hexValue? c)).bind fun d =>
        if d < 10 then some (10 * n + d) else none) k =
          some (ds.foldl (fun n c => 10 * n + (c.toNat - '0'.toNat)) k) := by
    intro ds
    induction ds with
    | nil => exact fun k _ => rfl
    | cons c ds ih =>
      intro k hds
      have hc := hds c List.mem_cons_self
      have hlt : c.toNat - '0'.toNat < 10 := by
        have := (Number.toNat_of_isDigit hc).2
        have hzero : '0'.toNat = 48 := rfl
        omega
      rw [List.foldlM_cons, Number.digitValue?_of_isDigit hc]
      simp only [Option.some_or, Option.bind_some, if_pos hlt]
      exact ih _ fun e he => hds e (List.mem_cons_of_mem _ he)
  have hvalue : Nat.ofDigitChars 10 (ofNat n) 0 = n := Nat.ofDigitChars_ten_toDigits
  rw [Nat.ofDigitChars_eq_foldl] at hvalue
  unfold digitsIn?
  rw [if_neg (by simpa using ofNat_ne_nil n)]
  dsimp only
  rw [folded _ 0 hdigits, hvalue]

theorem natural?_ofNat (hlength : (ofNat n).length ≤ Number.mostDigits) :
    natural? (ofNat n) = some n := by
  unfold natural?
  split
  · next c ds heq =>
    by_cases hn : n = 0
    · subst hn
      cases heq
    · exact absurd (by rw [heq]; rfl) (head?_ofNat hn)
  · rw [if_pos hlength, digitsIn?_ofNat]

theorem not_mem_ofNat (hc : ¬ c.isDigit) (n : Nat) : c ∉ ofNat n :=
  fun hmem => hc (isDigit_of_mem_ofNat hmem)

theorem toLower_of_isDigit (hc : c.isDigit) : c.toLower = c := by
  have hhigh := (Number.toNat_of_isDigit hc).2
  have hval : c.toNat = c.val.toNat := rfl
  have hupper : 'A'.val.toNat = 65 := rfl
  unfold Char.toLower
  split
  · next hletter =>
    have hle : 'A'.val.toNat ≤ c.val.toNat := hletter.1
    omega
  · rfl

/-- A decimal literal is neither a fraction nor a name of a number. -/
theorem numeral_eq (hn : n < 2 ^ 1024 - 2 ^ 970)
    (ht : (if t.head? = some '-' ∨ t.head? = some '+' then t.drop 1 else t) = ofNat n) :
    numeral t = .ok (int (if t.head? = some '-' then -(n : Int) else n)) := by
  have hplain : (ofNat n).filter (· != '_') = ofNat n := by
    refine List.filter_eq_self.mpr fun c hc => ?_
    have hne : c ≠ '_' := fun heq => not_mem_ofNat (by decide) n (heq ▸ hc)
    simpa using hne
  have hreal : looksReal (ofNat n) = false := by
    have hpoint : '.' ∉ ofNat n := not_mem_ofNat (by decide) n
    have hlower : 'e' ∉ ofNat n := not_mem_ofNat (by decide) n
    have hupper : 'E' ∉ ofNat n := not_mem_ofNat (by decide) n
    simp [looksReal, hpoint, hlower, hupper]
  have hlower : (ofNat n).map Char.toLower = ofNat n := by
    rw [List.map_congr_left fun c hc => toLower_of_isDigit (isDigit_of_mem_ofNat hc), List.map_id']
  have hname : ofNat n ≠ "inf".toList ∧ ofNat n ≠ "nan".toList :=
    ⟨fun heq => not_mem_ofNat (c := 'i') (by decide) n (by simp [heq]),
      fun heq => not_mem_ofNat (c := 'a') (by decide) n (by simp [heq])⟩
  have hvalue : integer? (ofNat n) = some (n : Int) := by
    unfold integer?
    rw [Number.leadingSign_of_isDigit fun c hc => isDigit_of_mem_ofNat hc]
    dsimp only
    rw [natural?_ofNat (length_ofNat hn)]
    rfl
  unfold numeral
  simp only [Bool.or_eq_true, decide_eq_true_eq, ht, hplain, hreal, hlower, hvalue, hname.1, hname.2,
    Bool.false_eq_true, ↓reduceIte, or_self]

theorem numeral_ofInt {n : Int} (hn : n.natAbs < 2 ^ 1024 - 2 ^ 970) : numeral (ofInt n) = .ok (int n) := by
  cases n with
  | ofNat n =>
    have hsign : (ofNat n).head? ≠ some '-' ∧ (ofNat n).head? ≠ some '+' :=
      ⟨fun h => not_mem_ofNat (by decide) n (List.mem_of_mem_head? h),
        fun h => not_mem_ofNat (by decide) n (List.mem_of_mem_head? h)⟩
    have hread := numeral_eq (t := ofNat n) (n := n) hn (by simp [hsign])
    rwa [if_neg hsign.1] at hread
  | negSucc n =>
    have hread := numeral_eq (t := '-' :: ofNat (n + 1)) (n := n + 1) hn (by simp)
    rw [List.head?_cons, if_pos rfl] at hread
    exact hread

theorem occursIn_eq_false (hc : c ∈ w) (ht : c ∉ t) : occursIn w t = false := by
  rw [Bool.eq_false_iff, Ne, occursIn_iff_infix]
  exact fun h => ht (h.subset hc)

theorem no_scores (ht : '_' ∉ t) : occursIn ['_', '.'] t = false ∧ occursIn ['.', '_'] t = false ∧
    occursIn ['_', '_'] t = false ∧ t.getLast? ≠ some '_' :=
  ⟨occursIn_eq_false (c := '_') (by simp) ht, occursIn_eq_false (c := '_') (by simp) ht,
    occursIn_eq_false (c := '_') (by simp) ht, fun h => ht (List.mem_of_getLast? h)⟩

theorem trim_blank_ofInt (n : Int) : trim (' ' :: ofInt n) = ofInt n := by
  rw [← List.singleton_append, trim_blank_append (List.forall_mem_singleton.mpr (by decide)),
    (bare_ofInt n).trim_eq]

theorem isPlainNumeral_ofNat (n : Nat) : isPlainNumeral (' ' :: ofNat n) = true := by
  have htrim : trim (' ' :: ofNat n) = ofNat n := trim_blank_ofInt n
  have hscore : '_' ∉ ofNat n := not_mem_ofNat (by decide) n
  have hsign : (ofNat n).head? ≠ some '+' ∧ (ofNat n).head? ≠ some '-' :=
    ⟨fun h => not_mem_ofNat (by decide) n (List.mem_of_mem_head? h),
      fun h => not_mem_ofNat (by decide) n (List.mem_of_mem_head? h)⟩
  obtain ⟨hpoint, hpoint', hscores, hlast⟩ := no_scores hscore
  obtain ⟨first, rest, hrest⟩ := List.exists_cons_of_ne_nil (ofNat_ne_nil n)
  unfold isPlainNumeral
  simp only [htrim]
  cases rest with
  | nil =>
    rw [hrest] at hscore ⊢
    have hne : first ≠ '_' := fun heq => hscore (heq ▸ List.mem_cons_self)
    simpa using hne
  | cons second rest =>
    have hzero : n ≠ 0 := by
      rintro rfl
      cases hrest
    have hhead := head?_ofNat hzero
    rw [hrest] at hscore hhead hsign hpoint hpoint' hscores hlast ⊢
    have hne : first ≠ '_' := fun heq => hscore (heq ▸ List.mem_cons_self)
    have hzero : first ≠ '0' := by simpa using hhead
    have hsigns : first ≠ '+' ∧ first ≠ '-' := by simpa using hsign
    simp only [hsigns, hpoint, hpoint', hscores, List.head?_cons, Option.some.injEq, decide_false,
      Bool.or_self, Bool.false_eq_true, if_false, Nat.lt_irrefl, Bool.false_and, Bool.not_false,
      Bool.and_true]
    rw [bne_iff_ne.mpr hne, bne_iff_ne.mpr hlast, bne_iff_ne.mpr hzero]
    rfl

theorem isPlainNumeral_minus (hn : n ≠ 0) : isPlainNumeral (' ' :: '-' :: ofNat n) = true := by
  have htrim : trim (' ' :: '-' :: ofNat n) = '-' :: ofNat n := by
    obtain ⟨k, rfl⟩ := Nat.exists_eq_succ_of_ne_zero hn
    exact trim_blank_ofInt (.negSucc k)
  have hscore : '_' ∉ ofNat n := not_mem_ofNat (by decide) n
  have hhead : (ofNat n).head? ≠ some '0' := head?_ofNat hn
  have hwhole := no_scores (t := '-' :: ofNat n) (by simpa using hscore)
  have hbehind := no_scores hscore
  obtain ⟨second, rest, hrest⟩ := List.exists_cons_of_ne_nil (ofNat_ne_nil n)
  unfold isPlainNumeral
  simp only [htrim]
  rw [hrest] at hhead hwhole hbehind ⊢
  have hzero : second ≠ '0' := by simpa using hhead
  simp [hwhole.1, hwhole.2.1, hbehind.2.2.1, hbehind.2.2.2, hzero]

/-- The zeros of an integer stand where they may. -/
theorem isPlainNumeral_ofInt (n : Int) : isPlainNumeral (' ' :: ofInt n) = true := by
  cases n with
  | ofNat n => exact isPlainNumeral_ofNat n
  | negSucc n => exact isPlainNumeral_minus (Nat.succ_ne_zero n)

theorem not_mem_ofInt (hc : ¬ c.isDigit) (hminus : c ≠ '-') (n : Int) : c ∉ ofInt n := by
  intro hmem
  rcases isDigit_of_mem_ofInt hmem with h | h
  · exact hminus h
  · exact hc h

theorem scalar_ofInt {n : Int} (hn : n.natAbs < 2 ^ 1024 - 2 ^ 970) : scalar true (ofInt n) = .ok (int n) := by
  have hminus : '-' ∉ (ofInt n).drop 1 := by
    cases n with
    | ofNat n => exact fun h => not_mem_ofNat (by decide) n (List.mem_of_mem_drop h)
    | negSucc n => exact not_mem_ofNat (by decide) (n + 1)
  unfold scalar
  rw [clock?_eq_none (not_mem_ofInt (by decide) (by decide) n), date?_eq_none hminus]
  exact numeral_ofInt hn

/-! ## Values -/

/-- What is written for a value is read as the value. -/
theorem read_plainText (hv : PlainValue v) (room : Nat) :
    read room (isPlainNumeral (' ' :: plainText v)) (plainText v) = .ok v := by
  cases hv with
  | string hs => exact read_stringText hs room _
  | bool b =>
    unfold read
    cases b <;> rfl
  | @int n hn =>
    have hscalar := scalar_ofInt hn
    show read room (isPlainNumeral (' ' :: ofInt n)) (ofInt n) = .ok (int n)
    rw [isPlainNumeral_ofInt]
    obtain ⟨first, rest, hfirst⟩ := List.exists_cons_of_ne_nil (bare_ofInt n).ne_nil
    have hother : ∀ c : Char, ¬ c.isDigit → c ≠ '-' → first ≠ c := fun c hc hminus heq =>
      not_mem_ofInt hc hminus n (by rw [hfirst, heq]; exact List.mem_cons_self)
    have hlower : first.toLower = first := by
      rcases isDigit_of_mem_ofInt (n := n) (by rw [hfirst]; exact List.mem_cons_self) with rfl | hdigit
      · rfl
      · exact toLower_of_isDigit hdigit
    have ht := hother 't' (by decide) (by decide)
    have hf := hother 'f' (by decide) (by decide)
    have hquote : ¬ isQuote first := by
      simp [isQuote, hother '"' (by decide) (by decide), hother '\'' (by decide) (by decide)]
    rw [hfirst] at hscalar ⊢
    unfold read
    dsimp only
    rw [if_neg (by simp [ht]), if_neg (by simp [hf]),
      if_neg (by simp [hlower, ht, hf]), if_neg hquote, if_neg (hother '[' (by decide) (by decide)),
      if_neg (hother '\x7b' (by decide) (by decide)), hscalar]

end Kudos.Toml
