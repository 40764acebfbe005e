import Mathlib
import Kudos.Document
import Kudos.Proofs.Text.Basic

/-!
# Lines and offsets

The line of an offset is the number of newlines before it (`lineOfOffset_eq_count`): the binary search
counts the line starts up to the offset, and those are the start of the text and the places behind
newlines. A line of the document is found again in its text between two newlines
(`exists_of_getElem?_lines`).
-/

namespace Kudos.Document

open Text

variable {table : Array Nat} {x lo hi n off i : Nat} {d : Document} {line before behind : Text}

/-! ## The binary search -/

/-- What the search knows of its bounds: the entries before `lo` are at most `x`, and those from `hi`
on are greater. -/
structure Between (table : Array Nat) (x lo hi : Nat) : Prop where
  /-- The bounds are in order. -/
  lo_le_hi : lo ≤ hi
  /-- The bounds lie in the table. -/
  hi_le_size : hi ≤ table.size
  /-- The entries before `lo` are at most `x`. -/
  le_of_lt : ∀ i < lo, table.getD i 0 ≤ x
  /-- The entries from `hi` on are greater than `x`. -/
  lt_of_le : ∀ i < table.size, hi ≤ i → x < table.getD i 0

/-- The search closes in on one place. -/
theorem between_countUpTo (sorted : ∀ i j, i ≤ j → j < table.size → table.getD i 0 ≤ table.getD j 0)
    (h : Between table x lo hi) :
    Between table x (countUpTo table x lo hi) (countUpTo table x lo hi) := by
  fun_induction countUpTo table x lo hi with
  | case1 lo hi hlt mid hx ih =>
    have hmid : lo ≤ mid ∧ mid < hi := by omega
    refine ih ⟨hmid.1, by have := h.hi_le_size; omega, h.le_of_lt, fun i hi hle => ?_⟩
    exact Nat.lt_of_lt_of_le hx (sorted mid i hle hi)
  | case2 lo hi hlt mid hx ih =>
    have hmid : lo ≤ mid ∧ mid < hi := by omega
    have hsize := h.hi_le_size
    refine ih ⟨by omega, hsize, fun i hi => ?_, h.lt_of_le⟩
    exact Nat.le_trans (sorted i mid (by omega) (by omega)) (by omega)
  | case3 lo hi hlt =>
    obtain rfl : lo = hi := by have := h.lo_le_hi; omega
    exact h

/-- In an ascending table the search counts the entries that are at most `x`. -/
theorem countUpTo_eq_countP (sorted : table.toList.Pairwise (· ≤ ·)) :
    countUpTo table x 0 table.size = table.toList.countP (· ≤ x) := by
  have mono : ∀ i j, i ≤ j → j < table.size → table.getD i 0 ≤ table.getD j 0 := by
    intro i j hij hj
    rcases Nat.lt_or_eq_of_le hij with hlt | rfl
    · have := List.pairwise_iff_getElem.mp sorted i j (by simp; omega) (by simpa using hj) hlt
      simpa [Array.getD, hj, show i < table.size by omega] using this
    · rfl
  have start : Between table x 0 table.size := ⟨by omega, le_rfl, by omega, by omega⟩
  obtain ⟨-, hsize, hbelow, habove⟩ := between_countUpTo mono start
  set n := countUpTo table x 0 table.size with hn
  have below : (table.toList.take n).countP (· ≤ x) = n := by
    rw [List.countP_eq_length.mpr, List.length_take, Array.length_toList, Nat.min_eq_left hsize]
    intro e he
    obtain ⟨i, hi, rfl⟩ := List.mem_take_iff_getElem.mp he
    have := hbelow i (by omega)
    simpa [Array.getD, show i < table.size by simp at hi; omega] using this
  have above : (table.toList.drop n).countP (· ≤ x) = 0 := by
    rw [List.countP_eq_zero]
    intro e he
    obtain ⟨i, hi, rfl⟩ := List.mem_drop_iff_getElem.mp he
    have hi : n + i < table.size := by
      rw [← Array.length_toList]
      omega
    have := habove (n + i) hi (by omega)
    simpa [Array.getD, hi] using this
  rw [← List.take_append_drop n table.toList, List.countP_append, below, above]
  rfl

/-! ## The table of line starts -/

theorem lt_of_mem_startsBehindNewlines {t : Text} (h : n ∈ startsBehindNewlines t off) : off < n := by
  induction t generalizing off with
  | nil => simp [startsBehindNewlines] at h
  | cons c t ih =>
    rw [startsBehindNewlines] at h
    split at h
    · rcases List.mem_cons.mp h with rfl | h
      · omega
      · have := ih h
        omega
    · have := ih h
      omega

theorem pairwise_startsBehindNewlines (t : Text) (off : Nat) :
    (startsBehindNewlines t off).Pairwise (· ≤ ·) := by
  induction t generalizing off with
  | nil => simp [startsBehindNewlines]
  | cons c t ih =>
    rw [startsBehindNewlines]
    split
    · refine List.pairwise_cons.mpr ⟨fun n hn => ?_, ih _⟩
      exact Nat.le_of_lt (lt_of_mem_startsBehindNewlines hn)
    · exact ih _

theorem pairwise_lineStarts (d : Document) : d.lineStarts.Pairwise (· ≤ ·) :=
  List.pairwise_cons.mpr ⟨fun _ _ => Nat.zero_le _, pairwise_startsBehindNewlines _ _⟩

/-- As many lines start up to an offset as there are newlines before it. -/
theorem countP_startsBehindNewlines (t : Text) (off x : Nat) :
    (startsBehindNewlines t off).countP (· ≤ off + x) = (t.take x).count '\n' := by
  induction t generalizing off x with
  | nil => simp [startsBehindNewlines]
  | cons c t ih =>
    cases x with
    | zero =>
      rw [List.take_zero, List.count_nil, List.countP_eq_zero]
      intro n hn
      have := lt_of_mem_startsBehindNewlines hn
      simpa using this
    | succ x =>
      have shift : off + (x + 1) = off + 1 + x := by omega
      rw [startsBehindNewlines, shift, List.take_succ_cons, List.count_cons]
      split
      case isTrue hc => simp [ih, hc]
      case isFalse hc => simp [ih, hc]

/-- The line of an offset is the number of newlines before it. -/
theorem lineOfOffset_eq_count (d : Document) (o : Int) :
    d.lineOfOffset o = (d.text.take o.toNat).count '\n' := by
  have place : (d.text.take (min o.toNat d.text.length)) = d.text.take o.toNat := by
    rw [List.take_eq_take_iff]
    omega
  have starts := countP_startsBehindNewlines d.text 0 (min o.toNat d.text.length)
  have total : d.lineStarts.countP (· ≤ min o.toNat d.text.length) =
      (d.text.take o.toNat).count '\n' + 1 := by
    rw [lineStarts, List.countP_cons_of_pos (by simp), ← place, ← starts]
    simp
  rw [lineOfOffset, countUpTo_eq_countP (by simpa using pairwise_lineStarts d)]
  simp only [total]
  omega

theorem lineOfOffset_length (h : d.text = before ++ behind) :
    d.lineOfOffset before.length = before.count '\n' := by
  rw [lineOfOffset_eq_count, h]
  simp

/-- All places of a line have its number. -/
theorem lineOfOffset_of_line (h : d.text = before ++ (line ++ behind)) (hnl : '\n' ∉ line)
    (hn : n ≤ line.length) : d.lineOfOffset (before.length + n : Nat) = before.count '\n' := by
  have split : d.text = (before ++ line.take n) ++ (line.drop n ++ behind) := by
    rw [h, List.append_assoc, ← List.append_assoc (line.take n), List.take_append_drop]
  have place : before.length + n = (before ++ line.take n).length := by
    rw [List.length_append, List.length_take, Nat.min_eq_left hn]
  rw [place, lineOfOffset_length split, List.count_append]
  have : (line.take n).count '\n' = 0 := List.count_eq_zero.mpr fun h => hnl (List.mem_of_mem_take h)
  omega

/-! ## The text of a line -/

/-- A line stands in the text behind as many newlines as its number says, and what follows it is the
end of the text, a newline, or a carriage return before one of these. -/
theorem exists_of_getElem?_lines (h : d.lines[i]? = some line) :
    ∃ before ending behind, d.text = before ++ line ++ ending ++ behind ∧
      before.count '\n' = i ∧ (before = [] ∨ before.getLast? = some '\n') ∧ '\n' ∉ line ∧
      (ending = [] ∨ ending = ['\r']) ∧ ∀ e ∈ behind.head?, e = '\n' := by
  rw [lines, List.getElem?_map, Option.map_eq_some_iff] at h
  obtain ⟨raw, hraw, rfl⟩ := h
  obtain ⟨before, behind, htext, hnl, hcount, hbefore, hbehind⟩ := exists_of_getElem?_splitOn hraw
  rw [dropCarriageReturn]
  split
  case h_1 hlast =>
    have hsplit : raw = raw.dropLast ++ ['\r'] := (List.dropLast_append_getLast? _ hlast).symm
    refine ⟨before, ['\r'], behind, ?_, hcount, hbefore, ?_, .inr rfl, hbehind⟩
    · rw [htext, List.append_assoc before _ ['\r'], ← hsplit]
    · exact fun hmem => hnl (List.mem_of_mem_dropLast hmem)
  case h_2 => exact ⟨before, [], behind, by simpa using htext, hcount, hbefore, hnl, .inl rfl, hbehind⟩

theorem mem_dropCarriageReturn {c : Char} (h : c ∈ line) (hc : c ≠ '\r') :
    c ∈ dropCarriageReturn line := by
  rw [dropCarriageReturn]
  split
  case h_1 hlast =>
    rw [← List.dropLast_append_getLast? _ hlast] at h
    rcases List.mem_append.mp h with h | h
    · exact h
    · exact absurd (by simpa using h) hc
  case h_2 => exact h

/-- Every character that ends no line lies in the line of its offset. -/
theorem exists_line_of_char {c : Char} (h : d.text = before ++ c :: behind) (hnl : c ≠ '\n')
    (hcr : c ≠ '\r') : ∃ line, d.lines[d.lineOfOffset before.length]? = some line ∧ c ∈ line := by
  obtain ⟨piece, hpiece, hmem⟩ := exists_piece_of_ne hnl before behind
  refine ⟨dropCarriageReturn piece, ?_, mem_dropCarriageReturn hmem hcr⟩
  rw [lineOfOffset_length h, lines, h, List.getElem?_map, hpiece, Option.map_some]

theorem getElem?_startsBehindNewlines (x y : Text) (off : Nat) :
    (startsBehindNewlines (x ++ '\n' :: y) off)[x.count '\n']? = some (off + x.length + 1) := by
  induction x generalizing off with
  | nil => simp [startsBehindNewlines]
  | cons c x ih =>
    have shift : off + 1 + x.length + 1 = off + (c :: x).length + 1 := by
      rw [List.length_cons]
      omega
    by_cases hc : c = '\n'
    · subst hc
      rw [List.cons_append, startsBehindNewlines, if_pos rfl, List.count_cons_self,
        List.getElem?_cons_succ, ih, shift]
    · rw [List.cons_append, startsBehindNewlines, if_neg hc, List.count_cons_of_ne hc, ih, shift]

/-- The start of a line in the table is the number of characters before the line. -/
theorem getElem?_lineStarts (h : d.text = before ++ behind)
    (hbefore : before = [] ∨ before.getLast? = some '\n') :
    d.lineStarts[before.count '\n']? = some before.length := by
  rcases List.eq_nil_or_concat before with rfl | ⟨x, c, rfl⟩
  · rfl
  · rw [List.concat_eq_append] at h hbefore ⊢
    obtain rfl : c = '\n' := by
      rcases hbefore with hbefore | hbefore
      · simp at hbefore
      · simpa using hbefore
    have split : d.text = x ++ '\n' :: behind := by simpa using h
    have start := getElem?_startsBehindNewlines x behind 0
    rw [lineStarts, split]
    simpa using start

/-! ## Documents put together -/

/-- There is one line more than there are newlines. -/
theorem lineCount_eq_count (d : Document) : d.lineCount = d.text.count '\n' + 1 := by
  rw [lineCount, lines, List.length_map, length_splitOn]

/-- Two texts with a newline between them have the lines of both. -/
theorem lines_of_joined {e w : Document} (h : w.text = d.text ++ '\n' :: e.text) :
    w.lines = d.lines ++ e.lines := by
  rw [lines, h, splitOn_append_separator, List.map_append, lines, lines]

end Kudos.Document
