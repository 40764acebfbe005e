import Mathlib
import Kudos.CommandLine.Run
import Kudos.Proofs.Notifier
import Kudos.Proofs.Text.Basic

/-!
# Lines on the console

What a command prints are whole lines, and a line is printed exactly if it is one of them. Messages to
the user are whole lines too, unless an answer is waited for.
-/

namespace Kudos

open Text

variable {h h' h'' : Host} {n : Notifier} {ok : Text → Prop} {x t before after : Text}
  {xs ys : List Text}

/-- Lines as they stand on the console. -/
def joinedLines (xs : List Text) : Text :=
  xs.flatMap (· ++ ['\n'])

/-- Behind whole lines a line starts. -/
theorem startsLine_joinedLines (xs : List Text) :
    joinedLines xs = [] ∨ (joinedLines xs).getLast? = some '\n' := by
  rcases List.eq_nil_or_concat xs with rfl | ⟨xs, x, rfl⟩
  · exact .inl rfl
  · right
    simp [joinedLines]

/-- What stands among whole lines, from the start of a line to a newline, is one of them. -/
theorem mem_of_joinedLines (hxs : ∀ y ∈ xs, '\n' ∉ y) (hx : '\n' ∉ x)
    (hsplit : joinedLines xs = before ++ x ++ '\n' :: after)
    (hbefore : before = [] ∨ before.getLast? = some '\n') : x ∈ xs := by
  induction xs generalizing before with
  | nil => simp [joinedLines] at hsplit
  | cons y ys ih =>
    have newline : ∀ {u : Text}, '\n' ∉ u → ∀ e ∈ u, ¬ (e == '\n') := by
      rintro u hu e he heq
      exact hu (beq_iff_eq.mp heq ▸ he)
    have hy : '\n' ∉ y := hxs y List.mem_cons_self
    have hfirst : joinedLines (y :: ys) = y ++ '\n' :: joinedLines ys := by simp [joinedLines]
    rw [hfirst] at hsplit
    by_cases hmem : '\n' ∈ before
    · obtain ⟨u, c, v, rfl, hu, hc⟩ := exists_first (p := (· == '\n')) ⟨_, hmem, by simp⟩
      obtain rfl : c = '\n' := by simpa using hc
      obtain ⟨rfl, -, hrest⟩ := eq_of_first (p := (· == '\n'))
        (hsplit.trans (by simp : _ = u ++ '\n' :: (v ++ x ++ '\n' :: after))) (newline hy) hu
        (by simp) (by simp)
      refine List.mem_cons_of_mem _ (ih (fun y hy => hxs y (List.mem_cons_of_mem _ hy)) hrest ?_)
      rcases List.eq_nil_or_concat v with rfl | ⟨v, e, rfl⟩
      · exact .inl rfl
      · right
        simpa [List.getLast?_cons] using hbefore
    · obtain rfl : before = [] := by
        rcases hbefore with rfl | hlast
        · rfl
        · exact absurd (List.mem_of_getLast? hlast) hmem
      obtain ⟨rfl, -, -⟩ := eq_of_first (p := (· == '\n')) hsplit (newline hy) (newline hx)
        (by simp) (by simp)
      exact List.mem_cons_self

namespace Host

/-- Whether a host has printed some lines since it was in another state. -/
def Prints (h h' : Host) (xs : List Text) : Prop :=
  h'.output = h.output ++ joinedLines xs

/-- Whether a line stands in what was printed. -/
def PrintsLine (h h' : Host) (x : Text) : Prop :=
  ∃ before after, h'.output = h.output ++ (before ++ x ++ '\n' :: after) ∧
    (before = [] ∨ before.getLast? = some '\n')

theorem Prints.nil (houtput : h'.output = h.output) : h.Prints h' [] := by
  unfold Prints
  rw [houtput]
  exact (List.append_nil _).symm

theorem Prints.append (hfirst : h.Prints h' xs) (hsecond : h'.Prints h'' ys) :
    h.Prints h'' (xs ++ ys) := by
  unfold Prints at *
  rw [hsecond, hfirst, List.append_assoc]
  simp [joinedLines]

theorem Prints.printsLine (hprints : h.Prints h' xs) (hx : x ∈ xs) : h.PrintsLine h' x := by
  obtain ⟨ys, zs, rfl⟩ := List.append_of_mem hx
  refine ⟨joinedLines ys, joinedLines zs, ?_, startsLine_joinedLines ys⟩
  rw [hprints]
  simp [joinedLines]

/-- A line is printed if it is one of the lines that are. -/
theorem Prints.printsLine_iff (hprints : h.Prints h' xs) (hxs : ∀ y ∈ xs, '\n' ∉ y) (hx : '\n' ∉ x) :
    h.PrintsLine h' x ↔ x ∈ xs := by
  constructor
  · rintro ⟨before, after, houtput, hbefore⟩
    rw [hprints] at houtput
    exact mem_of_joinedLines hxs hx (List.append_cancel_left houtput) hbefore
  · exact hprints.printsLine

end Host

namespace Notifier

/-- A message with markup is whole lines, or nothing if it cannot be shown. -/
theorem exists_prints_print (t : Text) (h : Host) : ∃ xs, h.Prints ((print t).run h).2 xs := by
  rw [run_print, Markup.print?]
  cases Markup.plain? h.styles t with
  | none => exact ⟨[], .nil rfl⟩
  | some shown => exact ⟨Wrap.lines consoleWidth shown, rfl⟩

/-- When the answer to questions is fixed, the user is told whole lines. -/
theorem exists_prints_of_tells (hfixed : n.fixed? ≠ none) (htells : n.Tells ok h h') :
    ∃ xs, h.Prints h' xs := by
  have onwards : ∀ {h₁ h₂ : Host}, (∃ xs, h.Prints h₁ xs) → (∃ xs, h₁.Prints h₂ xs) →
      ∃ xs, h.Prints h₂ xs := by
    rintro h₁ h₂ ⟨xs, hxs⟩ ⟨ys, hys⟩
    exact ⟨xs ++ ys, hxs.append hys⟩
  induction htells with
  | refl => exact ⟨[], .nil rfl⟩
  | silent _ same ih => exact onwards ih ⟨[], .nil same.2⟩
  | @inform h' message dismiss _ _ ih =>
    refine onwards ih ?_
    cases n with
    | recording answer => exact ⟨[], .nil rfl⟩
    | console answer =>
      have hnote : ((dismissNote dismiss).run h').2 = h' := by
        unfold dismissNote
        split
        · rfl
        · split
          · rfl
          · split <;> rfl
      unfold inform
      dsimp only
      rw [run_bind]
      rcases hrun : (dismissNote dismiss).run h' with ⟨e | note, h₁⟩
      · rw [hrun] at hnote
        exact ⟨[], .nil (congrArg Host.output hnote)⟩
      · rw [hrun] at hnote
        obtain rfl : h₁ = h' := hnote
        exact exists_prints_print _ _
  | @offer h' message action _ _ ih =>
    refine onwards ih ?_
    cases n with
    | recording answer => exact ⟨[], .nil rfl⟩
    | console answer =>
      obtain ⟨answer, rfl⟩ := Option.ne_none_iff_exists'.mp hfixed
      unfold offer
      exact snd_run_bind_pure (print (marked message)) (fun _ => answer) h' ▸ exists_prints_print _ _

end Notifier

end Kudos
