import Mathlib
import Kudos.Proofs.Pattern.Found
import Kudos.Proofs.Text.Basic

/-!
# Separators

The two kinds of separators that lists of names are cut at: one character with white space around it
(`loose`), and a keyword between white space (`spaced`). Cutting at a loose character is the same as
cutting at the character and trimming the pieces. A keyword is no separator where it is part of a
longer name, which `Apart` says of a stretch of text.
-/

namespace Kudos.Pattern

open Text

variable {p : Char → Bool} {pre rest t x y z w gap gap' name : Text} {c : Char}

/-- One character with any white space around it. -/
def loose (c : Char) : Pattern :=
  many isBlank ++ char c ++ many isBlank

/-- A keyword with white space on both sides. -/
def spaced (w : Text) : Pattern :=
  many1 isBlank ++ literal w ++ many1 isBlank

/-- A text ends as its last part does. -/
theorem getLast?_suffix (h : x = y ++ z) (hz : z ≠ []) : z.getLast? = x.getLast? := by
  rw [h, List.getLast?_append_of_ne_nil _ hz]

theorem exists_visible (hlast : ∀ e ∈ z.getLast?, ¬ isBlank e) (hz : z ≠ [])
    (hgap : ∀ e ∈ gap, isBlank e) (h : z ++ t = gap ++ rest) :
    ∃ u, z = gap ++ u ∧ u ≠ [] ∧ rest = u ++ t := by
  rcases List.append_eq_append_iff.mp h with ⟨v, rfl, rfl⟩ | ⟨v, rfl, rfl⟩
  · have hmem := List.getLast_mem hz
    exact absurd (hgap _ (List.mem_append_left _ hmem)) (hlast _ (List.getLast?_eq_some_getLast hz))
  · refine ⟨v, rfl, ?_, rfl⟩
    rintro rfl
    exact hlast _ (List.getLast?_eq_some_getLast hz) (hgap _ (by simp))

/-! ## One character -/

theorem starts_loose : (loose c).Starts pre t ↔
    ∃ gap rest, (∀ e ∈ gap, isBlank e) ∧ t = gap ++ c :: rest := by
  constructor
  · rintro ⟨run, rest, gs, rfl, h⟩
    obtain ⟨r, s, _, _, rfl, -, hr, -⟩ := reads_append.mp h
    obtain ⟨gap, m, _, _, rfl, -, hgap, hm⟩ := reads_append.mp hr
    obtain ⟨rfl, -⟩ := reads_char.mp hm
    exact ⟨gap, s ++ rest, (reads_many.mp hgap).1, by simp⟩
  · rintro ⟨gap, rest, hgap, rfl⟩
    refine ⟨gap ++ [c] ++ [], rest, [] ++ [] ++ [], by simp, ?_⟩
    exact .andThen (.andThen (.many hgap) (reads_char.mpr ⟨rfl, rfl⟩)) (.many (by simp))

/-- The white space around the character is all part of the separator. -/
theorem readsFirst_loose (hc : ¬ isBlank c) (hgap : ∀ e ∈ gap, isBlank e)
    (hgap' : ∀ e ∈ gap', isBlank e) (hrest : ∀ e ∈ rest.head?, ¬ isBlank e) :
    (loose c).ReadsFirst pre (gap ++ [c] ++ gap') rest [] := by
  have gap_first : (many isBlank).ReadsFirst pre gap ([c] ++ (gap' ++ rest)) [] :=
    .many hgap (by simpa using hc)
  exact .andThen (.andThen gap_first .char) (.many hgap' hrest)

/-- A stretch without the character that ends visibly holds no separator. -/
theorem quiet_loose (hx : c ∉ x) (hlast : ∀ e ∈ x.getLast?, ¬ isBlank e) :
    (loose c).Quiet pre x t := by
  intro y z hyz hz hstarts
  obtain ⟨gap, rest, hgap, hsplit⟩ := starts_loose.mp hstarts
  have zlast : ∀ e ∈ z.getLast?, ¬ isBlank e := by rwa [getLast?_suffix hyz hz]
  obtain ⟨u, rfl, hu, hrest⟩ := exists_visible zlast hz hgap hsplit
  obtain ⟨d, u, rfl⟩ := List.exists_cons_of_ne_nil hu
  obtain ⟨rfl, -⟩ := List.cons.inj hrest
  exact hx (by simp [hyz])

theorem quiet_loose_of_not_mem (hx : c ∉ x) : (loose c).Quiet pre x [] := by
  intro y z hyz hz hstarts
  obtain ⟨gap, rest, -, hsplit⟩ := starts_loose.mp hstarts
  rw [List.append_nil] at hsplit
  exact hx (by simp [hyz, hsplit])

/-- What the separator cuts off at the start of a text. -/
theorem piecesBehind_loose (hc : ¬ isBlank c) (hx : c ∉ x) (hlast : ∀ e ∈ x.getLast?, ¬ isBlank e)
    (hgap : ∀ e ∈ gap, isBlank e) (hgap' : ∀ e ∈ gap', isBlank e)
    (hrest : ∀ e ∈ rest.head?, ¬ isBlank e) :
    (loose c).piecesBehind pre (x ++ (gap ++ [c] ++ gap' ++ rest)) =
      x :: (loose c).piecesBehind (pre ++ x ++ (gap ++ [c] ++ gap')) rest :=
  piecesBehind_of_readsFirst (quiet_loose hx hlast) (by simp)
    (readsFirst_loose hc hgap hgap' hrest)

/-- Cutting at a character with the white space around it and trimming the pieces is cutting at the
character and trimming them. -/
theorem map_trim_piecesBehind_loose (hc : ¬ isBlank c) :
    ((loose c).piecesBehind pre t).map trim = (splitOn c t).map trim := by
  induction hn : t.length using Nat.strong_induction_on generalizing pre t with
  | _ n ih =>
    subst hn
    by_cases hmem : c ∈ t
    · obtain ⟨u, d, v, rfl, hu, hd⟩ := exists_first (p := (· == c)) ⟨c, hmem, by simp⟩
      obtain rfl : d = c := by simpa using hd
      have hu : d ∉ u := fun hdu => hu d hdu (by simp)
      obtain ⟨x, gap, rfl, hgap, hlast⟩ := exists_last_run isBlank u
      obtain ⟨gap', rest, rfl, hgap', hrest⟩ := exists_run isBlank v
      have cut : x ++ gap ++ d :: (gap' ++ rest) = x ++ (gap ++ [d] ++ gap' ++ rest) := by simp
      have hx : d ∉ x := fun hdx => hu (List.mem_append_left _ hdx)
      have later : ∀ q, ((loose d).piecesBehind q rest).map trim = (splitOn d rest).map trim :=
        fun q => ih rest.length (by simp; omega) rfl
      have shifted : (splitOn d (gap' ++ rest)).map trim = (splitOn d rest).map trim := by
        have hgapd : d ∉ gap' := fun hd' => hc (hgap' d hd')
        by_cases hdrest : d ∈ rest
        · obtain ⟨u', e, v', rfl, hu', he⟩ := exists_first (p := (· == d)) ⟨d, hdrest, by simp⟩
          obtain rfl : e = d := by simpa using he
          have hu' : e ∉ u' := fun hdu => hu' e hdu (by simp)
          rw [← List.append_assoc, splitOn_append_cons (by simp [hgapd, hu']),
            splitOn_append_cons hu', List.map_cons, List.map_cons, trim_blank_append hgap']
        · rw [splitOn_of_not_mem (by simp [hgapd, hdrest]), splitOn_of_not_mem hdrest,
            List.map_singleton, List.map_singleton, trim_blank_append hgap']
      rw [splitOn_append_cons hu, cut, piecesBehind_loose hc hx hlast hgap hgap' hrest,
        List.map_cons, List.map_cons, later, shifted, trim_append_blank hgap]
    · rw [piecesBehind_of_quiet (quiet_loose_of_not_mem hmem), splitOn_of_not_mem hmem]

/-! ## A keyword -/

theorem starts_spaced : (spaced w).Starts pre t ↔
    ∃ gap gap' rest, gap ≠ [] ∧ gap' ≠ [] ∧ (∀ e ∈ gap, isBlank e) ∧ (∀ e ∈ gap', isBlank e) ∧
      t = gap ++ (w ++ (gap' ++ rest)) := by
  constructor
  · rintro ⟨run, rest, gs, rfl, h⟩
    obtain ⟨r, gap', _, _, rfl, -, hr, hgap'⟩ := reads_append.mp h
    obtain ⟨gap, m, _, _, rfl, -, hgap, hm⟩ := reads_append.mp hr
    obtain ⟨rfl, -⟩ := reads_literal.mp hm
    obtain ⟨hne, hgap, -⟩ := reads_many1.mp hgap
    obtain ⟨hne', hgap', -⟩ := reads_many1.mp hgap'
    exact ⟨gap, gap', rest, hne, hne', hgap, hgap', by simp⟩
  · rintro ⟨gap, gap', rest, hne, hne', hgap, hgap', rfl⟩
    refine ⟨gap ++ w ++ gap', rest, [] ++ [] ++ [], by simp, ?_⟩
    refine .andThen (.andThen (reads_many1.mpr ⟨hne, hgap, rfl⟩) .literal) ?_
    exact reads_many1.mpr ⟨hne', hgap', rfl⟩

/-- The white space around the keyword is all part of the separator. -/
theorem readsFirst_spaced (hw : ∀ e ∈ (w ++ gap').head?, ¬ isBlank e) (hne : gap ≠ [])
    (hne' : gap' ≠ []) (hgap : ∀ e ∈ gap, isBlank e) (hgap' : ∀ e ∈ gap', isBlank e)
    (hrest : ∀ e ∈ rest.head?, ¬ isBlank e) :
    (spaced w).ReadsFirst pre (gap ++ w ++ gap') rest [] := by
  refine .andThen (.andThen (.many1 hne hgap ?_) .literal) (.many1 hne' hgap' hrest)
  cases w with
  | nil => simpa [List.head?_append, hne'] using hw
  | cons d w => simpa using hw

/-- Every occurrence of `w` in `x` has another character of the class next to it, so it is part of a
longer name. -/
def Apart (p : Char → Bool) (w x : Text) : Prop :=
  ∀ u v, x = u ++ (w ++ v) → (∃ e ∈ u.getLast?, p e) ∨ ∃ e ∈ v.head?, p e

theorem Apart.nil (hw : w ≠ []) : Apart p w [] := by
  intro u v h
  simp_all

/-- Characters outside of the class hold no keyword. -/
theorem Apart.skip_append (hwne : w ≠ []) (hw : ∀ e ∈ w, p e) (hz : ∀ e ∈ z, ¬ p e)
    (hx : Apart p w x) :
    Apart p w (z ++ x) := by
  intro u v h
  rcases List.append_eq_append_iff.mp h with ⟨s, rfl, hs⟩ | ⟨s, rfl, hs⟩
  · rcases hx s v hs with ⟨e, he, hp⟩ | hv
    · exact .inl ⟨e, by simp [List.getLast?_append, Option.mem_def.mp he], hp⟩
    · exact .inr hv
  · obtain ⟨d, w, rfl⟩ := List.exists_cons_of_ne_nil hwne
    cases s with
    | nil => exact .inr ((hx [] v hs.symm).resolve_left (by simp))
    | cons e s =>
      obtain ⟨rfl, -⟩ := List.cons.inj hs
      exact absurd (hw d (by simp)) (hz d (by simp))

/-- A name that is not the keyword holds no separate keyword, even if it contains it. -/
theorem Apart.name_append (hwne : w ≠ []) (hw : ∀ e ∈ w, p e) (hname : ∀ e ∈ name, p e) (hne : name ≠ w)
    (hstop : ∀ e ∈ x.head?, ¬ p e) (hx : Apart p w x) : Apart p w (name ++ x) := by
  intro u v h
  rcases List.append_eq_append_iff.mp h with ⟨s, rfl, hs⟩ | ⟨s, rfl, hs⟩
  · rcases hx s v hs with ⟨e, he, hp⟩ | hv
    · exact .inl ⟨e, by simp [List.getLast?_append, Option.mem_def.mp he], hp⟩
    · exact .inr hv
  · -- The keyword starts inside the name, so something of the name is before it or behind it.
    have before : s = w → ∃ e ∈ u.getLast?, p e := by
      rintro rfl
      rcases List.eq_nil_or_concat u with rfl | ⟨u, e, rfl⟩
      · exact absurd rfl hne
      · exact ⟨e, by simp, hname e (by simp)⟩
    rcases List.append_eq_append_iff.mp hs with ⟨s', rfl, rfl⟩ | ⟨s', rfl, rfl⟩
    · cases s' with
      | nil => exact .inl (before (by simp))
      | cons e s' => exact .inr ⟨e, by simp, hname e (by simp)⟩
    · cases s' with
      | nil => exact .inl (before (by simp))
      | cons e s' => exact absurd (hw e (by simp)) (hstop e (by simp))

/-- A stretch that ends visibly, before white space or the end of the text, and whose occurrences of
the keyword are all part of longer names holds no separator. -/
theorem quiet_spaced (hp : ∀ e, isBlank e → ¬ p e) (hw : ∀ e ∈ w, p e) (hx : Apart p w x)
    (hlast : ∀ e ∈ x.getLast?, ¬ isBlank e) (ht : ∀ e ∈ t.head?, isBlank e) :
    (spaced w).Quiet pre x t := by
  intro y z hyz hz hstarts
  obtain ⟨gap, gap', rest, hne, hne', hgap, hgap', hsplit⟩ := starts_spaced.mp hstarts
  have zlast : ∀ e ∈ z.getLast?, ¬ isBlank e := by rwa [getLast?_suffix hyz hz]
  obtain ⟨u, rfl, hu, hrest⟩ := exists_visible zlast hz hgap hsplit
  obtain ⟨d, gap', rfl⟩ := List.exists_cons_of_ne_nil hne'
  have hd : isBlank d := hgap' d (by simp)
  -- The keyword lies within the stretch, since what follows the stretch is no part of a name.
  have inside : ∃ v, u = w ++ v ∧ ∀ e ∈ v.head?, ¬ p e := by
    rcases List.append_eq_append_iff.mp hrest with ⟨v, rfl, hv⟩ | ⟨v, hv, rfl⟩
    · refine ⟨v, rfl, fun e he => ?_⟩
      cases v with
      | nil => simp at he
      | cons e' v =>
        obtain rfl : e' = e := by simpa using he
        obtain ⟨rfl, -⟩ := List.cons.inj hv
        exact hp _ hd
    · cases v with
      | nil => exact ⟨[], by simpa using hv.symm, by simp⟩
      | cons e v => exact absurd (hw e (by simp [hv])) (hp e (ht e (by simp)))
  obtain ⟨v, rfl, hv⟩ := inside
  rcases hx (y ++ gap) v (by simp [hyz]) with ⟨e, he, hpe⟩ | ⟨e, he, hpe⟩
  · rw [List.getLast?_append_of_ne_nil _ hne] at he
    exact hp e (hgap e (List.mem_of_getLast? he)) hpe
  · exact hv e he hpe

/-- A visible stretch holds no separator, for one starts with white space. -/
theorem quiet_spaced_visible (hx : ∀ e ∈ x, ¬ isBlank e) : (spaced w).Quiet pre x t := by
  refine quiet_of_forall fun e he u v hstarts => ?_
  obtain ⟨gap, _, _, hne, -, hgap, -, hsplit⟩ := starts_spaced.mp hstarts
  obtain ⟨d, gap, rfl⟩ := List.exists_cons_of_ne_nil hne
  obtain ⟨rfl, -⟩ := List.cons.inj hsplit
  exact hx e he (hgap e (by simp))

/-- White space before a visible text that does not begin with the keyword and more white space holds no
separator. -/
theorem quiet_spaced_gap (hwne : w ≠ []) (hw : ∀ e ∈ w.head?, ¬ isBlank e) (hx : ∀ e ∈ x, isBlank e)
    (ht : ∀ e ∈ t.head?, ¬ isBlank e) (hstop : ∀ e, isBlank e → ¬ w ++ [e] <+: t) :
    (spaced w).Quiet pre x t := by
  rintro y z rfl hz hstarts
  obtain ⟨gap, gap', rest, -, hne', hgap, hgap', hsplit⟩ := starts_spaced.mp hstarts
  obtain ⟨d, w, rfl⟩ := List.exists_cons_of_ne_nil hwne
  obtain ⟨e, gap', rfl⟩ := List.exists_cons_of_ne_nil hne'
  obtain ⟨-, hrest⟩ := eq_of_run hsplit (fun e he => hx e (by simp [he])) hgap ht (by simpa using hw)
  exact hstop e (hgap' e (by simp)) ⟨gap' ++ rest, by simp [hrest]⟩

/-- White space before a visible text that does not begin with the keyword holds no separator. -/
theorem quiet_spaced_blank (hw : ∀ e ∈ w.head?, ¬ isBlank e) (hx : ∀ e ∈ x, isBlank e)
    (ht : ∀ e ∈ t.head?, ¬ isBlank e) (hne : ¬ w <+: t) : (spaced w).Quiet pre x t := by
  have hwne : w ≠ [] := by
    rintro rfl
    exact hne List.nil_prefix
  exact quiet_spaced_gap hwne hw hx ht fun e _ h => hne ((List.prefix_append w [e]).trans h)

/-- A text without the keyword as a name of its own is one piece. -/
theorem piecesBehind_of_apart (hp : ∀ e, isBlank e → ¬ p e) (hw : ∀ e ∈ w, p e) (hx : Apart p w x)
    (hlast : ∀ e ∈ x.getLast?, ¬ isBlank e) : (spaced w).piecesBehind pre x = [x] :=
  piecesBehind_of_quiet (quiet_spaced hp hw hx hlast (by simp))

/-- A text is cut at the first place where the keyword stands as a name of its own. -/
theorem piecesBehind_spaced (hp : ∀ e, isBlank e → ¬ p e) (hwne : w ≠ []) (hw : ∀ e ∈ w, p e)
    (hx : Apart p w x) (hlast : ∀ e ∈ x.getLast?, ¬ isBlank e) (hne : gap ≠ []) (hne' : gap' ≠ [])
    (hgap : ∀ e ∈ gap, isBlank e) (hgap' : ∀ e ∈ gap', isBlank e)
    (hrest : ∀ e ∈ rest.head?, ¬ isBlank e) :
    (spaced w).piecesBehind pre (x ++ (gap ++ w ++ gap' ++ rest)) =
      x :: (spaced w).piecesBehind (pre ++ x ++ (gap ++ w ++ gap')) rest := by
  obtain ⟨d, gap, rfl⟩ := List.exists_cons_of_ne_nil hne
  have visible : ∀ e ∈ (w ++ gap').head?, ¬ isBlank e := by
    obtain ⟨e, w, rfl⟩ := List.exists_cons_of_ne_nil hwne
    intro e' he' hb
    obtain rfl : e = e' := by simpa using he'
    exact hp e hb (hw e (by simp))
  have first : (spaced w).ReadsFirst (pre ++ x) (d :: gap ++ w ++ gap') rest [] :=
    readsFirst_spaced visible hne hne' hgap hgap' hrest
  refine piecesBehind_of_readsFirst (quiet_spaced hp hw hx hlast ?_) (by simp) first
  simpa using hgap d (by simp)

/-! ## Texts that end with a mark

A separator before a visible character that is not of the keyword does not depend on what stands
behind that character. -/

theorem starts_spaced_before (hc : ¬ isBlank c) (hw : c ∉ w)
    (h : (spaced w).Starts pre (x ++ c :: y)) (z : Text) : (spaced w).Starts pre (x ++ c :: z) := by
  obtain ⟨gap, gap', rest, hne, hne', hgap, hgap', hsplit⟩ := starts_spaced.mp h
  have hmem : c ∉ gap ++ (w ++ gap') := by
    intro hmem
    simp only [List.mem_append] at hmem
    rcases hmem with hmem | hmem | hmem
    · exact hc (hgap c hmem)
    · exact hw hmem
    · exact hc (hgap' c hmem)
  have cut : x ++ c :: y = (gap ++ (w ++ gap')) ++ rest := by simpa using hsplit
  rcases List.append_eq_append_iff.mp cut with ⟨u, hu, hrest⟩ | ⟨u, rfl, -⟩
  · cases u with
    | nil =>
      refine starts_spaced.mpr ⟨gap, gap', c :: z, hne, hne', hgap, hgap', ?_⟩
      rw [List.append_nil] at hu
      simp [← hu]
    | cons d u =>
      obtain ⟨rfl, -⟩ := List.cons.inj hrest
      exact absurd (by simp [hu]) hmem
  · exact starts_spaced.mpr ⟨gap, gap', u ++ c :: z, hne, hne', hgap, hgap', by simp⟩

theorem quiet_spaced_before (hc : ¬ isBlank c) (hw : c ∉ w)
    (h : (spaced w).Quiet pre x (y ++ c :: t)) (z : Text) : (spaced w).Quiet pre x (y ++ c :: z) := by
  intro u v huv hv hstarts
  refine h u v huv hv ?_
  rw [← List.append_assoc] at hstarts ⊢
  exact starts_spaced_before hc hw hstarts t

/-- A text is free of separators or has a first one, which takes all the white space around the
keyword. -/
theorem quiet_or_exists_spaced (w : Text) (pre t : Text) :
    (spaced w).Quiet pre t [] ∨ ∃ x gap gap' y, t = x ++ (gap ++ w ++ gap' ++ y) ∧
      (spaced w).Quiet pre x (gap ++ w ++ gap' ++ y) ∧ gap ≠ [] ∧ gap' ≠ [] ∧
      (∀ e ∈ gap, isBlank e) ∧ (∀ e ∈ gap', isBlank e) ∧ ∀ e ∈ y.head?, ¬ isBlank e := by
  rcases quiet_or_exists_starts (spaced w) pre t [] with quiet | ⟨x, z, rfl, hz, quiet, hstarts⟩
  · exact .inl quiet
  · rw [List.append_nil] at quiet hstarts
    obtain ⟨gap, gap', rest, hne, hne', hgap, hgap', rfl⟩ := starts_spaced.mp hstarts
    obtain ⟨more, y, rfl, hmore, hy⟩ := exists_run isBlank rest
    have split : gap ++ (w ++ (gap' ++ (more ++ y))) = gap ++ w ++ (gap' ++ more) ++ y := by simp
    rw [split] at quiet ⊢
    refine .inr ⟨x, gap, gap' ++ more, y, rfl, quiet, hne, by simp [hne'], hgap, fun e he => ?_, hy⟩
    rcases List.mem_append.mp he with he | he
    · exact hgap' e he
    · exact hmore e he

/-- The first piece of a text ends where a separator can be read, if it does not end before. -/
theorem headD_piecesBehind_prefix (hwne : w ≠ []) (hw : ∀ e ∈ w, ¬ isBlank e)
    (h : (spaced w).Starts (pre ++ x) y) : ((spaced w).piecesBehind pre (x ++ y)).headD [] <+: x := by
  rcases quiet_or_exists_spaced w pre (x ++ y) with
    quiet | ⟨z, gap, gap', rest, hsplit, quiet, hne, hne', hgap, hgap', hrest⟩
  · have hy : y ≠ [] := by
      rintro rfl
      obtain ⟨gap, _, _, hne, -, -, -, hsplit⟩ := starts_spaced.mp h
      exact hne (List.append_eq_nil_iff.mp hsplit.symm).1
    exact absurd (by simpa using h) (quiet x y rfl hy)
  · have visible : ∀ e ∈ (w ++ gap').head?, ¬ isBlank e := by
      obtain ⟨d, w, rfl⟩ := List.exists_cons_of_ne_nil hwne
      simpa using hw d (by simp)
    have first := piecesBehind_of_readsFirst quiet (by simp [hne])
      (readsFirst_spaced visible hne hne' hgap hgap' hrest)
    rw [hsplit, first, List.headD_cons]
    rcases List.append_eq_append_iff.mp hsplit with ⟨u, rfl, hu⟩ | ⟨u, rfl, -⟩
    · by_cases hnil : u = []
      · simp [hnil]
      · rw [hu] at h
        exact absurd h (quiet x u rfl hnil)
    · exact List.prefix_append z u

/-- Behind a separator a text that ends with a mark still has the mark. -/
theorem exists_eq_append_mark (hc : ¬ isBlank c) (hne : gap ≠ []) (hgap : ∀ e ∈ gap, isBlank e)
    (h : x ++ [c] = z ++ gap ++ y) : ∃ u, y = u ++ [c] := by
  rcases List.eq_nil_or_concat y with rfl | ⟨u, d, rfl⟩
  · have hlast := congrArg List.getLast? h
    rw [List.getLast?_concat, List.append_nil, List.getLast?_append_of_ne_nil _ hne] at hlast
    exact absurd (hgap c (List.mem_of_getLast? hlast.symm)) hc
  · rw [List.concat_eq_append, ← List.append_assoc] at h
    obtain rfl : c = d := by simpa using List.append_inj_right' h rfl
    exact ⟨u, List.concat_eq_append⟩

/-- A text with a separator that ends with a mark is cut at the same place when more text is added. -/
theorem piecesBehind_append_mark (hw : ∀ e ∈ (w ++ gap').head?, ¬ isBlank e) (hc : ¬ isBlank c)
    (hcw : c ∉ w) (hne : gap ≠ []) (hne' : gap' ≠ []) (hgap : ∀ e ∈ gap, isBlank e)
    (hgap' : ∀ e ∈ gap', isBlank e) (hy : ∀ e ∈ (y ++ [c]).head?, ¬ isBlank e)
    (quiet : (spaced w).Quiet pre x (gap ++ w ++ gap' ++ (y ++ [c]))) (z : Text) :
    (spaced w).piecesBehind pre (x ++ (gap ++ w ++ gap' ++ (y ++ [c] ++ z))) =
      x :: (spaced w).piecesBehind (pre ++ x ++ (gap ++ w ++ gap')) (y ++ [c] ++ z) := by
  have longer : (spaced w).Quiet pre x (gap ++ w ++ gap' ++ (y ++ [c] ++ z)) := by
    have split : ∀ z, gap ++ w ++ gap' ++ (y ++ [c] ++ z) = (gap ++ w ++ gap' ++ y) ++ c :: z := by
      simp
    have quiet' : (spaced w).Quiet pre x ((gap ++ w ++ gap' ++ y) ++ c :: []) := by
      rwa [← split, List.append_nil]
    rw [split]
    exact quiet_spaced_before hc hcw quiet' z
  refine piecesBehind_of_readsFirst longer (by simp [hne]) (readsFirst_spaced hw hne hne' hgap hgap' ?_)
  intro e he
  refine hy e ?_
  cases y with
  | nil => simpa using he
  | cons d y => simpa using he

/-- The first piece of a text that ends with a mark stays when more text is added, or the whole text is
the first piece and goes on. -/
theorem exists_headD_piecesBehind_append (hwne : w ≠ []) (hw : ∀ e ∈ w, ¬ isBlank e)
    (hc : ¬ isBlank c) (hcw : c ∉ w) (z : Text) :
    ∃ y, y <+: z ∧ ((spaced w).piecesBehind pre (x ++ [c] ++ z)).headD [] =
        ((spaced w).piecesBehind pre (x ++ [c])).headD [] ++ y ∧
      (y ≠ [] → ((spaced w).piecesBehind pre (x ++ [c])).headD [] = x ++ [c]) := by
  rcases quiet_or_exists_spaced w pre (x ++ [c]) with
    quiet | ⟨a, gap, gap', b, hsplit, quiet, hne, hne', hgap, hgap', hb⟩
  · have before : (spaced w).Quiet pre x (c :: z) :=
      quiet_spaced_before (y := []) hc hcw quiet.left z
    have mark : (spaced w).Quiet (pre ++ x) [c] z := quiet_spaced_visible (by simpa using hc)
    obtain ⟨y, hy, hhead⟩ := exists_headD_piecesBehind (Quiet.append before mark)
    have whole : ((spaced w).piecesBehind pre (x ++ [c])).headD [] = x ++ [c] := by
      rw [piecesBehind_of_quiet quiet, List.headD_cons]
    exact ⟨y, hy, by rw [hhead, whole], fun _ => whole⟩
  · have visible : ∀ e ∈ (w ++ gap').head?, ¬ isBlank e := by
      obtain ⟨d, w, rfl⟩ := List.exists_cons_of_ne_nil hwne
      simpa using hw d (by simp)
    have hlast : x ++ [c] = (a ++ gap ++ w) ++ gap' ++ b := by simpa using hsplit
    obtain ⟨b, rfl⟩ := exists_eq_append_mark hc hne' hgap' hlast
    have pieces := piecesBehind_append_mark visible hc hcw hne hne' hgap hgap' hb quiet
    have longer : x ++ [c] ++ z = a ++ (gap ++ w ++ gap' ++ (b ++ [c] ++ z)) := by
      rw [hsplit]
      simp
    have same := pieces []
    rw [List.append_nil] at same
    exact ⟨[], List.nil_prefix, by rw [longer, pieces z, hsplit, same]; simp, by simp⟩

end Kudos.Pattern
