import Mathlib
import Kudos.Proofs.Document.Lines

/-!
# Offsets, lines and what separates them

The table of line starts and the list of lines come from two passes over a text. They agree: the text
behind as many newlines as its number says starts with the line, and then come the carriage return and the
newline that may end it, and the next line (`line_index`).
-/

namespace Kudos.Document

open Text

variable {t x raw line : Text} {off start i : Nat} {d : Document}

/-- The text behind its first newlines; nothing if it does not have as many. -/
def behindNewlines : Nat → Text → Text
  | 0, t => t
  | n + 1, t => behindNewlines n ((t.dropWhile (· ≠ '\n')).drop 1)

theorem behindNewlines_newline (n : Nat) (t : Text) :
    behindNewlines (n + 1) ('\n' :: t) = behindNewlines n t := by
  simp [behindNewlines]

theorem behindNewlines_cons {c : Char} (h : c ≠ '\n') (n : Nat) (t : Text) :
    behindNewlines (n + 1) (c :: t) = behindNewlines (n + 1) t := by
  simp [behindNewlines, h]

theorem behindNewlines_append (h : '\n' ∉ x) (n : Nat) (t : Text) :
    behindNewlines (n + 1) (x ++ t) = behindNewlines (n + 1) t := by
  induction x with
  | nil => rfl
  | cons c x ih =>
    have hc : c ≠ '\n' := fun hc => h (by simp [hc])
    have hx : '\n' ∉ x := fun hx => h (List.mem_cons_of_mem _ hx)
    rw [List.cons_append, behindNewlines_cons hc, ih hx]

/-! ## Line starts -/

/-- An entry of the table is the number of characters before the text behind the newlines. -/
theorem drop_of_getElem?_startsBehindNewlines (h : (startsBehindNewlines t off)[i]? = some start) :
    t.drop (start - off) = behindNewlines (i + 1) t := by
  induction t generalizing off i with
  | nil => simp [startsBehindNewlines] at h
  | cons c t ih =>
    have later := lt_of_mem_startsBehindNewlines (List.mem_of_getElem? h)
    have shift : start - off = start - (off + 1) + 1 := by omega
    rw [startsBehindNewlines] at h
    rw [shift, List.drop_succ_cons]
    by_cases hc : c = '\n'
    · rw [if_pos hc] at h
      rw [hc, behindNewlines_newline]
      cases i with
      | zero =>
        obtain rfl : off + 1 = start := by simpa using h
        simp [behindNewlines]
      | succ i =>
        rw [List.getElem?_cons_succ] at h
        exact ih h
    · rw [if_neg hc] at h
      rw [behindNewlines_cons hc]
      exact ih h

theorem drop_of_getElem?_lineStarts (h : d.lineStarts[i]? = some start) :
    d.text.drop start = behindNewlines i d.text := by
  cases i with
  | zero =>
    obtain rfl : 0 = start := by simpa [lineStarts] using h
    rfl
  | succ i =>
    rw [lineStarts, List.getElem?_cons_succ] at h
    exact drop_of_getElem?_startsBehindNewlines h

/-! ## Lines -/

/-- A piece between newlines stands behind as many newlines as its number says, and the next piece behind
one more. -/
theorem behindNewlines_of_getElem?_splitOn (h : (splitOn '\n' t)[i]? = some raw) :
    ∃ newline, (newline = [] ∨ newline = ['\n']) ∧
      behindNewlines i t = raw ++ newline ++ behindNewlines (i + 1) t := by
  induction i generalizing t with
  | zero =>
    by_cases hmem : '\n' ∈ t
    · obtain ⟨x, y, rfl, hx⟩ := List.eq_append_cons_of_mem hmem
      rw [splitOn_append_cons hx] at h
      obtain rfl : x = raw := by simpa using h
      refine ⟨['\n'], .inr rfl, ?_⟩
      rw [behindNewlines_append hx, behindNewlines_newline]
      simp [behindNewlines]
    · rw [splitOn_of_not_mem hmem] at h
      obtain rfl : t = raw := by simpa using h
      refine ⟨[], .inl rfl, ?_⟩
      have none := behindNewlines_append hmem 0 []
      rw [List.append_nil] at none
      rw [none]
      simp [behindNewlines]
  | succ i ih =>
    by_cases hmem : '\n' ∈ t
    · obtain ⟨x, y, rfl, hx⟩ := List.eq_append_cons_of_mem hmem
      rw [splitOn_append_cons hx, List.getElem?_cons_succ] at h
      simp only [behindNewlines_append hx, behindNewlines_newline]
      exact ih h
    · rw [splitOn_of_not_mem hmem] at h
      simp at h

/-- A line is a piece between newlines without the carriage return at its end. -/
theorem exists_ending (raw : Text) :
    ∃ ending, (ending = [] ∨ ending = ['\r']) ∧ raw = dropCarriageReturn raw ++ ending := by
  rw [dropCarriageReturn]
  split
  case h_1 hlast => exact ⟨['\r'], .inr rfl, (List.dropLast_append_getLast? _ hlast).symm⟩
  case h_2 => exact ⟨[], .inl rfl, (List.append_nil raw).symm⟩

/-- What stands between a line and the next one, or the end of the text. -/
def separators : List Text :=
  [[], ['\r'], ['\n'], ['\r', '\n']]

theorem behindNewlines_of_getElem?_lines (h : d.lines[i]? = some line) :
    ∃ separator ∈ separators,
      behindNewlines i d.text = line ++ separator ++ behindNewlines (i + 1) d.text := by
  rw [lines, List.getElem?_map, Option.map_eq_some_iff] at h
  obtain ⟨raw, hraw, rfl⟩ := h
  obtain ⟨newline, hnewline, hsplit⟩ := behindNewlines_of_getElem?_splitOn hraw
  obtain ⟨ending, hending, hline⟩ := exists_ending raw
  refine ⟨ending ++ newline, ?_, ?_⟩
  · rcases hending with rfl | rfl <;> rcases hnewline with rfl | rfl <;> simp [separators]
  · rw [hsplit, ← List.append_assoc, ← hline]

/-! ## Looking up -/

theorem lineAt_of_lt (h : i < d.lineCount) : ∃ line, d.lines[i]? = some line ∧ d.lineAt i = .ok line := by
  have hline : d.lines[i]? = some d.lines[i] := List.getElem?_eq_getElem h
  refine ⟨d.lines[i], hline, ?_⟩
  simp [lineAt, hline]

theorem lineAt_eq_error_iff (d : Document) (j : Int) :
    d.lineAt j = .error ⟨j, d.lineCount - 1⟩ ↔ j < 0 ∨ (d.lineCount : Int) ≤ j := by
  by_cases hneg : j < 0
  · simp [lineAt, hneg]
  · obtain ⟨n, rfl⟩ := Int.eq_ofNat_of_zero_le (Int.not_lt.mp hneg)
    by_cases hn : n < d.lineCount
    · obtain ⟨line, -, hat⟩ := lineAt_of_lt hn
      rw [hat]
      simp
      omega
    · have hnone : d.lines[n]? = none := List.getElem?_eq_none (Nat.le_of_not_lt hn)
      simp [lineAt, hnone]
      omega

theorem monotone_lineOfOffset (d : Document) : Monotone d.lineOfOffset := by
  intro o o' hle
  rw [lineOfOffset_eq_count, lineOfOffset_eq_count]
  exact (List.take_sublist_take_left (Int.toNat_le_toNat hle)).count_le _

theorem lineOfOffset_lt_lineCount (d : Document) (o : Int) : d.lineOfOffset o < d.lineCount := by
  rw [lineOfOffset_eq_count, lineCount_eq_count]
  exact Nat.lt_succ_of_le ((List.take_sublist _ _).count_le _)

end Kudos.Document
