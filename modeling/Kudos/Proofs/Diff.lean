import Mathlib
import Kudos.Diff

/-!
# What a line difference says

The search goes through the old lines from the last one to the first, with the lengths of the shared
runs that start at one old line and at each new line (`runsAt`). So the run that it finds is shared by
both texts and no shared run is longer (`longestRun_spec`). A difference is empty exactly if the texts
are equal.
-/

namespace Kudos.Diff

variable {old new : List Text} {run : Run} {start fuel : Nat}

/-! ## Shared runs -/

/-- Whether two texts have a run of lines at the places that it names. -/
structure Run.Shared (run : Run) (old new : List Text) : Prop where
  old_le : run.old + run.size ≤ old.length
  new_le : run.new + run.size ≤ new.length
  eq : (old.drop run.old).take run.size = (new.drop run.new).take run.size

/-- The number of lines with which two texts start alike. -/
def agreement : List Text → List Text → Nat
  | line :: old, l :: new => if l = line then agreement old new + 1 else 0
  | _, _ => 0

/-- The lengths of the shared runs that start at the first old line and at each new line. -/
def runsAt (old : List Text) : List Text → List Nat
  | [] => []
  | l :: new => agreement old (l :: new) :: runsAt old new

theorem agreement_nil_left (new : List Text) : agreement [] new = 0 := by
  cases new <;> rfl

theorem agreement_nil_right (old : List Text) : agreement old [] = 0 := by
  cases old <;> rfl

/-- The first lines are shared as far as the texts agree, and no further. -/
theorem shared_iff_le_agreement {n : Nat} :
    Run.Shared ⟨0, 0, n⟩ old new ↔ n ≤ agreement old new := by
  constructor
  · rintro ⟨hold, hnew, heq⟩
    induction n generalizing old new with
    | zero => omega
    | succ n ih =>
      cases old with
      | nil => simp at hold
      | cons line old =>
        cases new with
        | nil => simp at hnew
        | cons l new =>
          simp only [List.drop_zero, List.take_succ_cons, List.cons.injEq] at heq
          simp only [List.length_cons] at hold hnew
          have behind : n ≤ agreement old new := ih (by dsimp only; omega) (by dsimp only; omega) heq.2
          rw [agreement, if_pos heq.1.symm]
          omega
  · intro h
    induction n generalizing old new with
    | zero => exact ⟨Nat.zero_le _, Nat.zero_le _, rfl⟩
    | succ n ih =>
      cases old with
      | nil => simp [agreement_nil_left] at h
      | cons line old =>
        cases new with
        | nil => simp [agreement_nil_right] at h
        | cons l new =>
          by_cases hl : l = line
          · rw [agreement, if_pos hl] at h
            have behind : n ≤ agreement old new := by omega
            obtain ⟨hold, hnew, heq⟩ := ih behind
            dsimp only at hold hnew
            refine ⟨?_, ?_, by simpa [hl] using heq⟩
            · simp only [List.length_cons]
              omega
            · simp only [List.length_cons]
              omega
          · rw [agreement, if_neg hl] at h
            omega

theorem getElem?_runsAt (old new : List Text) (j : Nat) :
    (runsAt old new)[j]? = if j < new.length then some (agreement old (new.drop j)) else none := by
  induction new generalizing j with
  | nil => simp [runsAt]
  | cons l new ih =>
    cases j with
    | zero => simp [runsAt]
    | succ j => simp [runsAt, ih]

theorem extendRuns_runsAt (line : Text) (old new : List Text) :
    extendRuns line new (runsAt old new) = runsAt (line :: old) new := by
  -- the next run of a new line starts at the new line behind it, so the two lists are shifted
  have shifted : ∀ new : List Text,
      List.zipWith (fun l n => if l = line then n + 1 else 0) new (runsAt old new.tail ++ [0]) =
        runsAt (line :: old) new := by
    intro new
    induction new with
    | nil => rfl
    | cons l new ih =>
      cases new with
      | nil =>
        simp [runsAt, agreement, agreement_nil_right]
      | cons l' new =>
        rw [runsAt, ← ih]
        rfl
  cases new with
  | nil => rfl
  | cons l new => exact shifted (l :: new)

theorem firstGreatest_spec {l : List Nat} (h : l ≠ []) :
    l[(firstGreatest l).1]? = some (firstGreatest l).2 ∧ ∀ n ∈ l, n ≤ (firstGreatest l).2 := by
  induction l with
  | nil => exact absurd rfl h
  | cons n l ih =>
    by_cases hl : l = []
    · subst hl
      simp [firstGreatest]
    · obtain ⟨hplace, hgreatest⟩ := ih hl
      unfold firstGreatest
      dsimp only
      by_cases hn : (firstGreatest l).2 ≤ n
      · rw [if_pos hn]
        refine ⟨rfl, fun m hm => ?_⟩
        rcases List.mem_cons.mp hm with rfl | hm
        · exact le_rfl
        · exact (hgreatest m hm).trans hn
      · rw [if_neg hn]
        refine ⟨hplace, fun m hm => ?_⟩
        rcases List.mem_cons.mp hm with rfl | hm
        · dsimp only
          omega
        · exact hgreatest m hm

theorem Run.Shared.cons {line : Text} (h : run.Shared old new) :
    Run.Shared ⟨run.old + 1, run.new, run.size⟩ (line :: old) new where
  old_le := by
    have := h.old_le
    simp only [List.length_cons]
    omega
  new_le := h.new_le
  eq := h.eq

/-- A shared run starts at the first old line, or it is one of the lines behind that. -/
theorem Run.Shared.size_le {line : Text} {n : Nat} (h : run.Shared (line :: old) new)
    (hfirst : ∀ j, agreement (line :: old) (new.drop j) ≤ n)
    (hrest : ∀ r : Run, r.Shared old new → r.size ≤ n) : run.size ≤ n := by
  obtain ⟨old', new', size⟩ := run
  obtain ⟨hold, hnew, heq⟩ := h
  dsimp only at hold hnew heq
  cases old' with
  | zero =>
    refine (shared_iff_le_agreement.mp ⟨by simpa using hold, ?_, heq⟩).trans (hfirst new')
    simp only [List.length_drop]
    omega
  | succ k =>
    refine hrest ⟨k, new', size⟩ ⟨?_, hnew, heq⟩
    simp only [List.length_cons] at hold
    dsimp only
    omega

/-- No new line starts a longer run at the first old line than the one that is taken. -/
theorem agreement_drop_le (old new : List Text) (j : Nat) :
    agreement old (new.drop j) ≤ (firstGreatest (runsAt old new)).2 := by
  by_cases hj : j < new.length
  · have hmem : agreement old (new.drop j) ∈ runsAt old new :=
      List.mem_of_getElem? (by rw [getElem?_runsAt, if_pos hj])
    exact (firstGreatest_spec (List.ne_nil_of_mem hmem)).2 _ hmem
  · rw [List.drop_eq_nil_of_le (by omega), agreement_nil_right]
    exact Nat.zero_le _

theorem shared_firstGreatest (old new : List Text) :
    Run.Shared ⟨0, (firstGreatest (runsAt old new)).1, (firstGreatest (runsAt old new)).2⟩ old new := by
  by_cases hempty : runsAt old new = []
  · rw [hempty]
    exact ⟨Nat.zero_le _, Nat.zero_le _, rfl⟩
  have hplace := (firstGreatest_spec hempty).1
  rw [getElem?_runsAt] at hplace
  split at hplace
  · next hlt =>
    obtain ⟨hold, hnew, heq⟩ :=
      shared_iff_le_agreement.mpr (le_of_eq (Option.some_inj.mp hplace).symm)
    refine ⟨hold, ?_, heq⟩
    simp only [List.length_drop] at hnew
    dsimp only
    omega
  · cases hplace

theorem longestRuns_spec (new old : List Text) :
    (longestRuns new old).1 = runsAt old new ∧ (longestRuns new old).2.Shared old new ∧
      ∀ run : Run, run.Shared old new → run.size ≤ (longestRuns new old).2.size := by
  induction old with
  | nil =>
    refine ⟨?_, ⟨le_rfl, Nat.zero_le _, rfl⟩, fun run h => ?_⟩
    · show (new.map fun _ => 0) = runsAt [] new
      induction new with
      | nil => rfl
      | cons l new ih => rw [runsAt, agreement_nil_left, ← ih, List.map_cons]
    · have := h.old_le
      simp only [List.length_nil] at this
      omega
  | cons line old ih =>
    obtain ⟨hnext, hbest, hmax⟩ := ih
    set best := (longestRuns new old).2
    have hruns : longestRuns new (line :: old) =
        let found := firstGreatest (runsAt (line :: old) new)
        (runsAt (line :: old) new,
          if best.size ≤ found.2 then ⟨0, found.1, found.2⟩
          else { best with old := best.old + 1 }) := by
      unfold longestRuns
      dsimp only
      rw [hnext, extendRuns_runsAt]
    have hfirst := agreement_drop_le (line :: old) new
    have hfound := shared_firstGreatest (line :: old) new
    set found := firstGreatest (runsAt (line :: old) new)
    rw [hruns]
    refine ⟨rfl, ?_⟩
    dsimp only
    by_cases hle : best.size ≤ found.2
    · rw [if_pos hle]
      exact ⟨hfound, fun run h => h.size_le hfirst fun r hr => (hmax r hr).trans hle⟩
    · rw [if_neg hle]
      have hlt : found.2 ≤ best.size := by omega
      exact ⟨hbest.cons, fun run h => h.size_le (fun j => (hfirst j).trans hlt) hmax⟩

/-- The run that is found is shared, and no shared run is longer. -/
theorem longestRun_spec (old new : List Text) :
    (longestRun old new).Shared old new ∧
      ∀ run : Run, run.Shared old new → run.size ≤ (longestRun old new).size :=
  (longestRuns_spec new old).2

/-! ## Empty differences -/

theorem gap_eq_nil_iff : gap old new start = [] ↔ old = [] ∧ new = [] := by
  unfold gap
  cases old <;> cases new <;> simp

theorem eq_of_editsFrom_eq_nil (h : editsFrom fuel old new start = []) : old = new := by
  induction fuel generalizing old new start with
  | zero =>
    obtain ⟨rfl, rfl⟩ := gap_eq_nil_iff.mp h
    rfl
  | succ fuel ih =>
    unfold editsFrom at h
    dsimp only at h
    split at h
    · obtain ⟨rfl, rfl⟩ := gap_eq_nil_iff.mp h
      rfl
    · -- nothing was inserted or deleted before the kept run nor behind it
      obtain ⟨hbefore, hbehind⟩ := List.append_eq_nil_iff.mp h
      have hbetween := (longestRun_spec old new).1.eq
      set run := longestRun old new
      calc old = old.take run.old ++ ((old.drop run.old).take run.size ++
            old.drop (run.old + run.size)) := by
            rw [← List.drop_drop, List.take_append_drop, List.take_append_drop]
        _ = new.take run.new ++ ((new.drop run.new).take run.size ++
            new.drop (run.new + run.size)) := by
            rw [ih hbefore, hbetween, ih hbehind]
        _ = new := by rw [← List.drop_drop, List.take_append_drop, List.take_append_drop]

/-- The longest run that a text shares with itself is the whole text. -/
theorem longestRun_self (old : List Text) : longestRun old old = ⟨0, 0, old.length⟩ := by
  obtain ⟨hshared, hmax⟩ := longestRun_spec old old
  have hsize := hmax ⟨0, 0, old.length⟩ ⟨by simp, by simp, rfl⟩
  have hold := hshared.old_le
  have hnew := hshared.new_le
  cases hrun : longestRun old old with
  | mk o n size =>
    rw [hrun] at hsize hold hnew
    dsimp only at hsize hold hnew
    simp only [Run.mk.injEq]
    omega

theorem editsFrom_self (h : old.length ≤ fuel) : editsFrom fuel old old start = [] := by
  have empty : ∀ fuel start, editsFrom fuel [] [] start = [] := by
    intro fuel start
    cases fuel <;> rfl
  cases old with
  | nil => exact empty fuel start
  | cons line old =>
    cases fuel with
    | zero => simp at h
    | succ fuel =>
      unfold editsFrom
      rw [longestRun_self]
      simp [empty]

theorem longestRun_nil (new : List Text) : (longestRun [] new).size = 0 := by
  have hold := (longestRun_spec [] new).1.old_le
  simp only [List.length_nil] at hold
  omega

/-- The bound on the depth never cuts the search short. -/
theorem editsFrom_eq_of_le {fuel' : Nat} (h : old.length ≤ fuel) (h' : old.length ≤ fuel') :
    editsFrom fuel old new start = editsFrom fuel' old new start := by
  -- nothing is searched without old lines
  have nil : ∀ fuel new start, editsFrom fuel [] new start = gap [] new start := by
    intro fuel new start
    cases fuel with
    | zero => rfl
    | succ fuel => rw [editsFrom, if_pos (longestRun_nil new)]
  induction fuel generalizing fuel' old new start with
  | zero =>
    obtain rfl := List.length_eq_zero_iff.mp (Nat.le_zero.mp h)
    rw [nil, nil]
  | succ fuel ih =>
    cases fuel' with
    | zero =>
      obtain rfl := List.length_eq_zero_iff.mp (Nat.le_zero.mp h')
      rw [nil, nil]
    | succ fuel' =>
      rw [editsFrom, editsFrom]
      by_cases hsize : (longestRun old new).size = 0
      · rw [if_pos hsize, if_pos hsize]
      · rw [if_neg hsize, if_neg hsize]
        have hold := (longestRun_spec old new).1.old_le
        have before : (old.take (longestRun old new).old).length < old.length := by
          rw [List.length_take]
          omega
        have behind : (old.drop ((longestRun old new).old + (longestRun old new).size)).length <
            old.length := by
          rw [List.length_drop]
          omega
        rw [ih (by omega) (show _ ≤ fuel' by omega), ih (by omega) (show _ ≤ fuel' by omega)]

theorem splitLines_injective : Function.Injective Text.splitLines := fun old new h => by
  rw [← Text.flatten_splitLines old, h, Text.flatten_splitLines]

/-- A difference is empty exactly if the texts are equal. -/
theorem edits_eq_nil_iff {old new : Text} : edits old new = [] ↔ old = new := by
  constructor
  · exact fun h => splitLines_injective (eq_of_editsFrom_eq_nil h)
  · rintro rfl
    exact editsFrom_self le_rfl

end Kudos.Diff
