import Mathlib
import Kudos.Proofs.Text.Basic
import Kudos.Text.LineBreak

/-!
# Texts made of lines

Lines that are put together with a newline behind each are found again, by their newlines alone and by all
that breaks lines.
-/

namespace Kudos.Text

variable {line rest : Text} {lines : List Text}

theorem splitOn_lines (h : ∀ line ∈ lines, '\n' ∉ line) :
    splitOn '\n' (lines.flatMap (· ++ ['\n'])) = lines ++ [[]] := by
  induction lines with
  | nil => rfl
  | cons line lines ih =>
    obtain ⟨hline, hlines⟩ := List.forall_mem_cons.mp h
    rw [List.flatMap_cons, List.append_assoc, List.singleton_append, splitOn_append_cons hline, ih hlines]
    rfl

theorem splitLines_append_newline (h : ∀ c ∈ line, ¬ isLineBreak c) (rest : Text) :
    splitLines (line ++ '\n' :: rest) = (line ++ ['\n']) :: splitLines rest := by
  induction line with
  | nil =>
    rw [List.nil_append, splitLines]
    · rfl
    · intro _ heq
      cases heq
  | cons c line ih =>
    obtain ⟨hc, hline⟩ := List.forall_mem_cons.mp h
    rw [List.cons_append, splitLines, if_neg hc, ih hline]
    · rfl
    · rintro _ rfl
      exact absurd rfl hc

theorem splitLines_lines (h : ∀ line ∈ lines, ∀ c ∈ line, ¬ isLineBreak c) :
    splitLines (lines.flatMap (· ++ ['\n'])) = lines.map (· ++ ['\n']) := by
  induction lines with
  | nil => rfl
  | cons line lines ih =>
    obtain ⟨hline, hlines⟩ := List.forall_mem_cons.mp h
    rw [List.flatMap_cons, List.append_assoc, List.singleton_append, splitLines_append_newline hline, ih hlines,
      List.map_cons]

end Kudos.Text
