import Mathlib
import Kudos.Display.Wrap
import Kudos.Proofs.Text.Basic

/-!
# Lines that fit

A text is laid out line by line as it is when none of its lines asks for more room than there is
(`lines_of_fits`). The cells of a text are no sum over its characters, since some characters join or widen
the one before them; `room` is a bound that is one.
-/

namespace Kudos.Wrap

open Text

variable {t x y : Text} {width used : Nat}

/-! ## Room -/

/-- The cells that a text takes at most: one for each character, and more for wide ones. -/
def room (t : Text) : Nat :=
  (t.map fun c => max 1 (cellsOf c)).sum

theorem room_append (x y : Text) : room (x ++ y) = room x + room y := by
  simp [room]

theorem room_cons (c : Char) (t : Text) : room (c :: t) = max 1 (cellsOf c) + room t := rfl

theorem length_le_room (t : Text) : t.length ≤ room t := by
  induction t with
  | nil => simp [room]
  | cons c t ih =>
    rw [room_cons, List.length_cons]
    omega

theorem cellsFrom_le_room (measured : Option Char) (t : Text) : cellsFrom measured t ≤ room t := by
  fun_induction cellsFrom measured t with
  | case1 => exact Nat.zero_le _
  | case2 => exact Nat.zero_le _
  | case3 measured c hjoin d rest ih =>
    rw [room_cons, room_cons]
    omega
  | case4 measured c rest hjoin hwiden ih =>
    rw [room_cons]
    split <;> omega
  | case5 measured c rest hjoin hwiden n ih =>
    rw [room_cons]
    omega

theorem room_dropRightWhile_le (p : Char → Bool) (t : Text) : room (dropRightWhile p t) ≤ room t := by
  have split : t = dropRightWhile p t ++ (t.reverse.takeWhile p).reverse := by
    rw [dropRightWhile, ← List.reverse_append, List.takeWhile_append_dropWhile, List.reverse_reverse]
  conv_rhs => rw [split, room_append]
  exact Nat.le_add_right _ _

/-! ## Words -/

theorem flatten_cutBehindBlanks (t : Text) : (cutBehindBlanks t).flatten = t := by
  induction t with
  | nil => rfl
  | cons c t ih =>
    rw [cutBehindBlanks]
    split
    · next hcut =>
      rw [hcut] at ih
      simp [← ih]
    · next hcut =>
      rw [hcut] at ih
      split <;> simp [← ih]

/-- The words make up the text. -/
theorem flatten_words (t : Text) : (words t).flatten = t := by
  have whole : t.takeWhile isBlank ++ t.dropWhile isBlank = t := List.takeWhile_append_dropWhile
  have rest := flatten_cutBehindBlanks (t.dropWhile isBlank)
  rw [words, List.span_eq_takeWhile_dropWhile]
  dsimp only
  split
  · next hcut =>
    rw [hcut] at rest
    rw [← rest] at whole
    simpa using whole
  · next hcut =>
    rw [hcut] at rest
    rw [← rest] at whole
    simpa using whole

/-! ## Lines -/

/-- Words for which there is room are put on one line. -/
theorem place_of_room (ws : List Text) (l : Text) (h : used + room ws.flatten ≤ width) :
    place width used l ws = [l ++ ws.flatten] := by
  induction ws generalizing used l with
  | nil => simp [place]
  | cons w ws ih =>
    rw [List.flatten_cons, room_append] at h
    have trimmed := cellsFrom_le_room none (dropRightWhile isBlank w)
    have shorter := room_dropRightWhile_le isBlank w
    have whole : cells w ≤ room w := cellsFrom_le_room none w
    have hfits : used + cells (dropRightWhile isBlank w) ≤ width := by
      unfold cells
      omega
    rw [place, if_pos hfits, ih _ (by omega), List.flatten_cons, List.append_assoc]

theorem dropEnd_of_length_le (h : t.length ≤ width) : dropEnd width t = t := by
  rw [dropEnd, Nat.sub_eq_zero_of_le h, Nat.min_zero, Nat.sub_zero, List.take_length]

/-- A line for which there is room is laid out as it is. -/
theorem line_of_room (htab : '\t' ∉ t) (h : room t ≤ width) : line width t = [t] := by
  have laid : (if t.all isBlank then [t] else place width 0 [] (words t)) = [t] := by
    split
    · rfl
    · rw [place_of_room _ _ (by rwa [flatten_words, Nat.zero_add]), flatten_words, List.nil_append]
  have hcells : ¬ width < cells t := by
    have := cellsFrom_le_room none t
    unfold cells
    omega
  unfold line
  rw [if_neg (by simpa using htab)]
  dsimp only
  rw [laid, List.map_singleton, dropEnd_of_length_le (Nat.le_trans (length_le_room t) h), if_neg hcells]

/-- Whether there is room for every line of a text, which has no tabs. -/
structure Fits (width : Nat) (t : Text) : Prop where
  /-- There are no tabs. -/
  tabless : '\t' ∉ t
  /-- There is room for every line. -/
  room : ∀ l ∈ splitOn '\n' t, room l ≤ width

/-- A text that fits is laid out as it is. -/
theorem lines_of_fits (h : Fits width t) : lines width t = splitOn '\n' t := by
  have same : ∀ l ∈ splitOn '\n' t, line width l = [l] := fun l hl =>
    line_of_room (fun htab => h.tabless (subset_of_mem_splitOn hl htab)) (h.room l hl)
  rw [lines, List.flatMap_congr same, List.flatMap_singleton']

/-- Lines with a newline behind each are the text with a newline behind it. -/
theorem flatMap_splitOn (t : Text) : (splitOn '\n' t).flatMap (· ++ ['\n']) = t ++ ['\n'] := by
  induction t with
  | nil => rfl
  | cons c t ih =>
    by_cases hc : c = '\n'
    · rw [hc, splitOn, if_pos rfl, List.flatMap_cons, ih]
      rfl
    · obtain ⟨piece, pieces, ht, hsplit⟩ := splitOn_cons_of_ne hc t
      rw [ht, List.flatMap_cons] at ih
      rw [hsplit, List.flatMap_cons, List.cons_append, List.cons_append, ih]
      rfl

end Kudos.Wrap
