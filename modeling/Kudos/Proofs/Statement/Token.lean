import Mathlib
import Kudos.Proofs.Text.Basic

/-!
# Tokens of written statements

The pieces that written import statements are made of: runs of one class of characters, possibly empty
(`Run`) or not (`Run1`). The spaces and tabs inside a line are runs of `isIndent`, and names are runs
of word characters. A run carries the proof that it is one, so a statement written with runs cannot be
malformed.
-/

namespace Kudos

open Text

/-- A run of characters of a class. -/
structure Run (p : Char → Bool) where
  text : Text
  /-- All of them are of the class. -/
  all : ∀ c ∈ text, p c

/-- A run of at least one character of a class. -/
structure Run1 (p : Char → Bool) extends Run p where
  /-- There is one. -/
  ne_nil : text ≠ []

variable {p q : Char → Bool} {t u : Text}

/-- The run of the given characters, whose class can be computed. -/
def Run.of (t : Text) (h : t.all p := by decide) : Run p :=
  ⟨t, List.all_eq_true.mp h⟩

/-- The same for a run that is not empty. -/
def Run1.of (t : Text) (h : t.all p := by decide) (hne : t ≠ [] := by decide) : Run1 p :=
  ⟨.of t h, hne⟩

theorem isIndent_space : isIndent ' ' := by decide

theorem space_beq_space : ' ' == ' ' := by decide

/-- One character of the class. -/
def Run1.single (c : Char) (h : p c := by decide) : Run1 p :=
  ⟨⟨[c], by simpa using h⟩, by simp⟩

/-- One space. -/
def Run1.space (h : p ' ') : Run1 p :=
  ⟨⟨[' '], by simpa using h⟩, by simp⟩

theorem Run1.exists_cons (r : Run1 p) : ∃ c s, r.text = c :: s ∧ p c := by
  obtain ⟨c, s, h⟩ := List.exists_cons_of_ne_nil r.ne_nil
  exact ⟨c, s, h, r.all c (by simp [h])⟩

/-- What starts with a run starts with a character of its class. -/
theorem Run1.head (r : Run1 p) : ∀ c ∈ (r.text ++ t).head?, p c := by
  obtain ⟨d, s, h, hd⟩ := r.exists_cons
  intro c hc
  obtain rfl : d = c := by simpa [h] using hc
  exact hd

/-- What ends with a run ends with a character of its class. -/
theorem Run1.last (r : Run1 p) : ∀ c ∈ (t ++ r.text).getLast?, p c := by
  intro c hc
  rw [List.getLast?_append_of_ne_nil _ r.ne_nil] at hc
  exact r.all c (List.mem_of_getLast? hc)

theorem Run.isBlank_of_isIndent (r : Run isIndent) : ∀ c ∈ r.text, isBlank c :=
  fun c hc => Text.isBlank_of_isIndent (r.all c hc)

end Kudos
