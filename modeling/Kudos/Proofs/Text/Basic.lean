import Mathlib
import Kudos.Text.Word

/-!
# Cutting and trimming texts

Where texts are cut: at the first character of a class (`eq_of_first`), at a separator
(`splitOn_append_cons`), and at the white space around them (`trim_append_blank`). The classes of
characters that import statements are written with exclude each other, which is what makes the cuts
unambiguous.
-/

namespace Kudos.Text

variable {p : Char → Bool} {t x x' y y' z piece : Text} {c c' separator : Char} {i : Nat}

/-! ## Classes of characters -/

/-- The code points of the white space characters. -/
def blankCodes : List Nat :=
  List.range' 0x09 5 ++ List.range' 0x1C 5 ++ List.range' 0x2000 11 ++
    [0x85, 0xA0, 0x1680, 0x2028, 0x2029, 0x202F, 0x205F, 0x3000]

theorem mem_blankCodes_of_isBlank (h : isBlank c) : c.toNat ∈ blankCodes := by
  simp only [isBlank, Bool.or_eq_true, Bool.and_eq_true, decide_eq_true_eq] at h
  simp only [blankCodes, List.mem_append, List.mem_range'_1, List.mem_cons, List.not_mem_nil,
    or_false]
  rcases h with (((((((((h | h) | h) | h) | h) | h) | h) | h) | h) | h) | h
  all_goals omega

/-- No white space character is a letter, a number or the underscore. -/
theorem not_isBlank_of_isWord (h : isWord c) : ¬ isBlank c := by
  intro hb
  have none : ∀ n ∈ blankCodes, isWord (Char.ofNat n) = false := by decide +kernel
  have := none _ (mem_blankCodes_of_isBlank hb)
  rw [Char.ofNat_toNat, h] at this
  exact absurd this (by simp)

theorem isBlank_of_isIndent (h : isIndent c) : isBlank c := by
  simp only [isIndent, Bool.or_eq_true, decide_eq_true_eq] at h
  rcases h with rfl | rfl <;> decide

theorem ne_newline_of_isIndent (h : isIndent c) : c ≠ '\n' := by
  rintro rfl
  exact absurd h (by decide)

theorem ne_newline_of_not_isBlank (h : ¬ isBlank c) : c ≠ '\n' := by
  rintro rfl
  exact h (by decide)

/-! ## Cuts at the first character of a class -/

/-- Of two cuts behind runs of a class, with no such character behind either, only one exists. -/
theorem eq_of_run (h : x ++ y = x' ++ y') (hx : ∀ e ∈ x, p e) (hx' : ∀ e ∈ x', p e)
    (hy : ∀ e ∈ y.head?, ¬ p e) (hy' : ∀ e ∈ y'.head?, ¬ p e) : x = x' ∧ y = y' := by
  rcases List.append_eq_append_iff.mp h with ⟨w, rfl, rfl⟩ | ⟨w, rfl, rfl⟩
  · cases w with
    | nil => simp
    | cons e w => exact absurd (hx' e (by simp)) (hy e (by simp))
  · cases w with
    | nil => simp
    | cons e w => exact absurd (hx e (by simp)) (hy' e (by simp))

/-- A text has only one cut before its first character of a class. -/
theorem eq_of_first (h : x ++ c :: y = x' ++ c' :: y') (hx : ∀ e ∈ x, ¬ p e)
    (hx' : ∀ e ∈ x', ¬ p e) (hc : p c) (hc' : p c') : x = x' ∧ c = c' ∧ y = y' := by
  have runs : x = x' ∧ c :: y = c' :: y' :=
    eq_of_run (p := fun e => !p e) h (by simpa using hx) (by simpa using hx') (by simpa using hc)
      (by simpa using hc')
  simpa using runs

/-- A text is cut before its first character of a class, if it has one. -/
theorem exists_first (h : ∃ e ∈ t, p e) :
    ∃ x c y, t = x ++ c :: y ∧ (∀ e ∈ x, ¬ p e) ∧ p c := by
  induction t with
  | nil => simp at h
  | cons d t ih =>
    by_cases hd : p d
    · exact ⟨[], d, t, rfl, by simp, hd⟩
    · obtain ⟨x, c, y, rfl, hx, hc⟩ := ih (by simpa [hd] using h)
      exact ⟨d :: x, c, y, rfl, by simpa [hd] using hx, hc⟩

theorem exists_run (p : Char → Bool) (t : Text) :
    ∃ x y, t = x ++ y ∧ (∀ e ∈ x, p e) ∧ ∀ e ∈ y.head?, ¬ p e := by
  refine ⟨t.takeWhile p, t.dropWhile p, List.takeWhile_append_dropWhile.symm, ?_, ?_⟩
  · exact fun e he => List.mem_takeWhile_imp he
  · intro e he
    have := List.head?_dropWhile_not p t
    rw [Option.mem_def.mp he] at this
    simpa using this

theorem exists_last_run (p : Char → Bool) (t : Text) :
    ∃ x y, t = x ++ y ∧ (∀ e ∈ y, p e) ∧ ∀ e ∈ x.getLast?, ¬ p e := by
  obtain ⟨y, x, h, hy, hx⟩ := exists_run p t.reverse
  refine ⟨x.reverse, y.reverse, ?_, by simpa using hy, by simpa using hx⟩
  rw [← List.reverse_append, ← h, List.reverse_reverse]

/-! ## Trimming -/

theorem trim_blank_append (h : ∀ e ∈ x, isBlank e) : trim (x ++ t) = trim t := by
  rw [trim, List.dropWhile_append_of_pos h, trim]

theorem trim_append_blank (h : ∀ e ∈ y, isBlank e) : trim (t ++ y) = trim t := by
  have right : ∀ u : Text, dropRightWhile isBlank (u ++ y) = dropRightWhile isBlank u := by
    intro u
    rw [dropRightWhile, List.reverse_append, List.dropWhile_append_of_pos (by simpa using h),
      dropRightWhile]
  by_cases ht : ∀ e ∈ t, isBlank e
  · have left : (t ++ y).dropWhile isBlank = [] := by
      rw [List.dropWhile_append_of_pos ht, List.dropWhile_eq_nil_iff]
      exact h
    rw [trim, left, trim, List.dropWhile_eq_nil_iff.mpr ht]
  · push Not at ht
    obtain ⟨u, c, v, rfl, hu, hc⟩ := exists_first (p := fun e => !isBlank e) (by simpa using ht)
    have hu : ∀ e ∈ u, isBlank e := by simpa using hu
    have hc : ¬ isBlank c := by simpa using hc
    rw [List.append_assoc, trim, trim, List.dropWhile_append_of_pos hu, List.dropWhile_append_of_pos hu,
      List.cons_append, List.dropWhile_cons_of_neg hc, List.dropWhile_cons_of_neg hc,
      ← List.cons_append, right]

theorem trim_eq_self (hfirst : ∀ e ∈ t.head?, ¬ isBlank e) (hlast : ∀ e ∈ t.getLast?, ¬ isBlank e) :
    trim t = t := by
  cases t with
  | nil => rfl
  | cons c t =>
    have stay : dropRightWhile isBlank (c :: t) = c :: t := by
      obtain ⟨u, d, hu⟩ := List.eq_nil_or_concat (c :: t) |>.resolve_left (by simp)
      rw [List.concat_eq_append] at hu
      rw [hu] at hlast ⊢
      rw [dropRightWhile, List.reverse_append, List.reverse_singleton, List.singleton_append,
        List.dropWhile_cons_of_neg (hlast d (by simp)), List.reverse_cons, List.reverse_reverse]
    rw [trim, List.dropWhile_cons_of_neg (hfirst c (by simp)), stay]

theorem trim_between (hx : ∀ e ∈ x, isBlank e) (hy : ∀ e ∈ y, isBlank e)
    (hfirst : ∀ e ∈ t.head?, ¬ isBlank e) (hlast : ∀ e ∈ t.getLast?, ¬ isBlank e) :
    trim (x ++ t ++ y) = t := by
  rw [trim_append_blank hy, trim_blank_append hx, trim_eq_self hfirst hlast]

theorem mem_of_mem_trim (h : c ∈ trim t) : c ∈ t := by
  have hmem : c ∈ (t.dropWhile isBlank).reverse.dropWhile isBlank := List.mem_reverse.mp h
  have hright : c ∈ t.dropWhile isBlank :=
    List.mem_reverse.mp ((List.dropWhile_sublist isBlank).subset hmem)
  exact (List.dropWhile_sublist isBlank).subset hright

/-- Text added behind a visible character leaves what is trimmed away before it. -/
theorem exists_trim_append (hc : ¬ isBlank c) (x y : Text) :
    ∃ u v, trim (x ++ [c]) = u ++ [c] ∧ trim (x ++ [c] ++ y) = u ++ [c] ++ v ∧ v <+: y := by
  obtain ⟨gap, t, hsplit, hgap, ht⟩ := exists_run isBlank (x ++ [c])
  obtain ⟨u, rfl⟩ : ∃ u, t = u ++ [c] := by
    rcases List.eq_nil_or_concat t with rfl | ⟨u, d, rfl⟩
    · rw [List.append_nil] at hsplit
      exact absurd (hgap c (by simp [← hsplit])) hc
    · rw [List.concat_eq_append, ← List.append_assoc] at hsplit
      obtain rfl : c = d := by simpa using List.append_inj_right' hsplit rfl
      exact ⟨u, List.concat_eq_append⟩
  obtain ⟨v, gap', rfl, hgap', hv⟩ := exists_last_run isBlank y
  have head : ∀ e ∈ (u ++ [c] ++ v).head?, ¬ isBlank e := by
    intro e he
    refine ht e ?_
    cases u with
    | nil => simpa using he
    | cons d u => simpa using he
  have last : ∀ e ∈ (u ++ [c] ++ v).getLast?, ¬ isBlank e := by
    intro e he
    by_cases hne : v = []
    · obtain rfl : c = e := by simpa [hne] using he
      exact hc
    · rw [List.getLast?_append_of_ne_nil _ hne] at he
      exact hv e he
  refine ⟨u, v, ?_, ?_, List.prefix_append v gap'⟩
  · rw [hsplit, trim_blank_append hgap, trim_eq_self ht (by simpa using hc)]
  · have split : x ++ [c] ++ (v ++ gap') = gap ++ (u ++ [c] ++ v) ++ gap' := by
      rw [hsplit]
      simp
    rw [split, trim_between hgap hgap' head last]

theorem exists_trim_cons (hc : ¬ isBlank c) (t : Text) : ∃ s, trim (c :: t) = c :: s := by
  obtain ⟨u, v, halone, hlonger, -⟩ := exists_trim_append hc [] t
  have alone : trim [c] = [c] := trim_eq_self (by simpa using hc) (by simpa using hc)
  obtain rfl : u = [] := by simpa [alone] using halone
  exact ⟨v, hlonger⟩

/-! ## Occurrences -/

theorem occursIn_iff_infix : occursIn t x ↔ t <:+: x := by
  induction x with
  | nil => simp [occursIn]
  | cons c x ih => simp [occursIn, ih, List.infix_cons_iff]

theorem occursIn_append (x t y : Text) : occursIn t (x ++ (t ++ y)) = true := by
  induction x with
  | nil =>
    cases t with
    | nil => cases y <;> simp [occursIn]
    | cons c t => simp [occursIn]
  | cons c x ih => rw [List.cons_append, occursIn, ih, Bool.or_true]

/-! ## Pieces between separators -/

theorem splitOn_of_not_mem (h : separator ∉ t) : splitOn separator t = [t] := by
  induction t with
  | nil => rfl
  | cons c t ih =>
    have hc : c ≠ separator := by
      rintro rfl
      exact h (by simp)
    rw [splitOn, if_neg hc, ih fun ht => h (List.mem_cons_of_mem _ ht)]

theorem splitOn_append_cons (h : separator ∉ x) :
    splitOn separator (x ++ separator :: y) = x :: splitOn separator y := by
  induction x with
  | nil => simp [splitOn]
  | cons c x ih =>
    have hc : c ≠ separator := by
      rintro rfl
      exact h (by simp)
    rw [List.cons_append, splitOn, if_neg hc, ih fun hx => h (List.mem_cons_of_mem _ hx)]

/-- Two texts with a separator between them have the pieces of both. -/
theorem splitOn_append_separator (separator : Char) (x y : Text) :
    splitOn separator (x ++ separator :: y) = splitOn separator x ++ splitOn separator y := by
  induction x with
  | nil => simp [splitOn]
  | cons c x ih =>
    obtain ⟨piece, pieces, hx⟩ := List.exists_cons_of_ne_nil (splitOn_ne_nil separator x)
    rw [hx] at ih
    by_cases hc : c = separator
    · simp [splitOn, hc, hx, ih]
    · simp [splitOn, hc, hx, ih]

/-- There is one piece more than there are separators. -/
theorem length_splitOn (separator : Char) (t : Text) :
    (splitOn separator t).length = t.count separator + 1 := by
  induction t with
  | nil => rfl
  | cons c t ih =>
    obtain ⟨piece, pieces, ht⟩ := List.exists_cons_of_ne_nil (splitOn_ne_nil separator t)
    rw [ht, List.length_cons] at ih
    by_cases hc : c = separator
    · simp [splitOn, hc, ht, ih]
    · simpa [splitOn, hc, ht] using ih

/-- A piece stands between two separators, or between one and an end of the text, with as many
separators before it as its number says. -/
theorem exists_of_getElem?_splitOn (h : (splitOn separator t)[i]? = some piece) :
    ∃ x y, t = x ++ piece ++ y ∧ separator ∉ piece ∧ x.count separator = i ∧
      (x = [] ∨ x.getLast? = some separator) ∧ ∀ e ∈ y.head?, e = separator := by
  induction hn : t.length using Nat.strong_induction_on generalizing t i with
  | _ n ih =>
    subst hn
    by_cases hmem : separator ∈ t
    · obtain ⟨u, d, v, rfl, hu, hd⟩ := exists_first (p := (· == separator)) ⟨_, hmem, by simp⟩
      obtain rfl : d = separator := by simpa using hd
      have hu : d ∉ u := fun hdu => hu d hdu (by simp)
      rw [splitOn_append_cons hu] at h
      cases i with
      | zero =>
        obtain rfl : u = piece := by simpa using h
        exact ⟨[], d :: v, by simp, hu, by simp, .inl rfl, by simp⟩
      | succ i =>
        obtain ⟨x, y, hxy, hpiece, hcount, hx, hy⟩ :=
          ih v.length (by simp; omega) (by simpa using h) rfl
        refine ⟨u ++ d :: x, y, by simp [hxy], hpiece, ?_, ?_, hy⟩
        · simp [hcount, List.count_eq_zero_of_not_mem hu]
        · rcases hx with rfl | hx
          · simp
          · rw [List.getLast?_append, List.getLast?_cons, hx]
            simp
    · rw [splitOn_of_not_mem hmem] at h
      obtain ⟨rfl, rfl⟩ : i = 0 ∧ t = piece := by
        cases i <;> simp_all
      exact ⟨[], [], by simp, hmem, by simp, .inl rfl, by simp⟩

/-- Pieces are made of characters of the text. -/
theorem subset_of_mem_splitOn (h : piece ∈ splitOn separator t) : piece ⊆ t := by
  obtain ⟨i, hi⟩ := List.getElem?_of_mem h
  obtain ⟨x, y, rfl, -⟩ := exists_of_getElem?_splitOn hi
  intro c hc
  simp [hc]

theorem splitOn_cons_of_ne (h : c ≠ separator) (t : Text) :
    ∃ piece pieces, splitOn separator t = piece :: pieces ∧
      splitOn separator (c :: t) = (c :: piece) :: pieces := by
  obtain ⟨piece, pieces, ht⟩ := List.exists_cons_of_ne_nil (splitOn_ne_nil separator t)
  exact ⟨piece, pieces, ht, by rw [splitOn, if_neg h, ht]⟩

/-- Every character but the separators lies in the piece that as many separators precede. -/
theorem exists_piece_of_ne (hc : c ≠ separator) (x y : Text) :
    ∃ piece, (splitOn separator (x ++ c :: y))[x.count separator]? = some piece ∧ c ∈ piece := by
  induction x with
  | nil =>
    obtain ⟨piece, pieces, -, hsplit⟩ := splitOn_cons_of_ne hc y
    exact ⟨c :: piece, by simp [hsplit], by simp⟩
  | cons e x ih =>
    obtain ⟨piece, hpiece, hmem⟩ := ih
    by_cases he : e = separator
    · subst he
      exact ⟨piece, by simpa [splitOn] using hpiece, hmem⟩
    · obtain ⟨first, pieces, htail, hsplit⟩ := splitOn_cons_of_ne he (x ++ c :: y)
      rw [List.cons_append, hsplit, List.count_cons_of_ne he]
      rw [htail] at hpiece
      cases hn : x.count separator with
      | zero =>
        obtain rfl : first = piece := by simpa [hn] using hpiece
        exact ⟨e :: first, rfl, List.mem_cons_of_mem _ hmem⟩
      | succ n =>
        rw [hn] at hpiece
        exact ⟨piece, by simpa using hpiece, hmem⟩

end Kudos.Text
