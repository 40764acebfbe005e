import Mathlib
import Kudos.Timer

/-!
# The pending timer of a slot

All timers stand in one list, those of several slots among each other. `Tidy` is what a slot keeps
through every run: the timer it holds is live, and it is the only one of its kind that has not been
cancelled. So only that one can fire. A slot of one kind never touches the timers of another.
-/

namespace Kudos

variable {α : Type} {slot other : TimerSlot α} {ts : Timers α} {t : Timer α} {i j : Nat} {p : α}

theorem Timers.firing?_eq_some :
    Timers.firing? ts i = some p ↔ ∃ t, ts[i]? = some t ∧ t.isLive ∧ t.purpose = p := by
  unfold Timers.firing?
  cases ht : ts[i]? with
  | none => simp
  | some t => by_cases hlive : t.isLive <;> simp [hlive]

theorem Timer.cancelled_of_isLive (h : t.isLive) : t.cancelled = false := by
  unfold Timer.isLive at h
  simp_all

namespace TimerSlot

@[simp] theorem purpose_stop (slot : TimerSlot α) (ts : Timers α) :
    (slot.stop ts).1.purpose = slot.purpose := by
  unfold stop
  split <;> rfl

@[simp] theorem purpose_schedule (slot : TimerSlot α) (ts : Timers α) :
    (slot.schedule ts).1.purpose = slot.purpose :=
  purpose_stop slot ts

/-- A stop cancels the timer in the slot and leaves all others. -/
theorem getElem?_stop (slot : TimerSlot α) (ts : Timers α) (j : Nat) :
    (slot.stop ts).2[j]? = if slot.current = some j then ts[j]?.map Timer.cancel else ts[j]? := by
  unfold stop
  cases hi : slot.current with
  | none => simp
  | some i => by_cases hij : i = j <;> simp [hij]

/-- Scheduling puts a running timer behind what a stop leaves. -/
theorem getElem?_schedule (slot : TimerSlot α) (ts : Timers α) (j : Nat) :
    (slot.schedule ts).2[j]? =
      if j = ts.length then
        some { delay := slot.delay, purpose := slot.purpose, started := true }
      else (slot.stop ts).2[j]? := by
  have delay : (slot.stop ts).1.delay = slot.delay := by
    unfold stop
    split <;> rfl
  have made : (slot.schedule ts).2 = (slot.stop ts).2 ++
      [{ delay := slot.delay, purpose := slot.purpose, started := true }] := by
    simp [schedule, Timer.start, delay]
  rw [made, List.getElem?_append, length_stop]
  by_cases hlt : j < ts.length
  · rw [if_pos hlt, if_neg (by omega)]
  · rw [if_neg hlt]
    by_cases hj : j = ts.length
    · simp [hj]
    · have beyond : (slot.stop ts).2[j]? = none := by
        rw [List.getElem?_eq_none_iff, length_stop]
        omega
      rw [if_neg hj, beyond, List.getElem?_eq_none_iff]
      simp
      omega

theorem mem_stop (h : t ∈ (slot.stop ts).2) : ∃ u ∈ ts, t.purpose = u.purpose := by
  obtain ⟨j, hj⟩ := List.mem_iff_getElem?.mp h
  rw [getElem?_stop] at hj
  split at hj
  · obtain ⟨u, hu, rfl⟩ := Option.map_eq_some_iff.mp hj
    exact ⟨u, List.mem_of_getElem? hu, rfl⟩
  · exact ⟨t, List.mem_of_getElem? hj, rfl⟩

theorem mem_schedule (h : t ∈ (slot.schedule ts).2) :
    t.purpose = slot.purpose ∨ ∃ u ∈ ts, t.purpose = u.purpose := by
  obtain ⟨j, hj⟩ := List.mem_iff_getElem?.mp h
  rw [getElem?_schedule] at hj
  split at hj
  · cases hj
    exact .inl rfl
  · exact .inr (mem_stop (List.mem_of_getElem? hj))

/-! ## The invariant of a slot -/

/-- The timer that a slot holds is live, and it is the only one of its kind that is not cancelled. -/
structure Tidy (slot : TimerSlot α) (ts : Timers α) : Prop where
  isLive_current : ∀ i, slot.current = some i →
    ∃ t, ts[i]? = some t ∧ t.purpose = slot.purpose ∧ t.isLive
  eq_current : ∀ i t, ts[i]? = some t → t.purpose = slot.purpose → t.cancelled = false →
    slot.current = some i

theorem tidy_of_forall_ne (hnone : slot.current = none) (hts : ∀ t ∈ ts, t.purpose ≠ slot.purpose) :
    Tidy slot ts where
  isLive_current := by simp [hnone]
  eq_current := fun i t ht hp _ => absurd hp (hts t (List.mem_of_getElem? ht))

theorem Tidy.current_of_firing (h : Tidy slot ts) (hi : ts.firing? i = some slot.purpose) :
    slot.current = some i := by
  obtain ⟨t, ht, hlive, hp⟩ := Timers.firing?_eq_some.mp hi
  exact h.eq_current i t ht hp (Timer.cancelled_of_isLive hlive)

theorem Tidy.firing_of_current (h : Tidy slot ts) (hi : slot.current = some i) :
    ts.firing? i = some slot.purpose := by
  obtain ⟨t, ht, hp, hlive⟩ := h.isLive_current i hi
  exact Timers.firing?_eq_some.mpr ⟨t, ht, hlive, hp⟩

/-- When all timers are of one kind, one of them is live exactly if the slot holds one. -/
theorem Tidy.exists_isLive (h : Tidy slot ts) (hts : ∀ t ∈ ts, t.purpose = slot.purpose) :
    (∃ t ∈ ts, t.isLive) ↔ slot.current.isSome := by
  constructor
  · rintro ⟨t, ht, hlive⟩
    obtain ⟨i, hi⟩ := List.mem_iff_getElem?.mp ht
    rw [h.eq_current i t hi (hts t ht) (Timer.cancelled_of_isLive hlive)]
    rfl
  · intro hsome
    obtain ⟨i, hi⟩ := Option.isSome_iff_exists.mp hsome
    obtain ⟨t, ht, -, hlive⟩ := h.isLive_current i hi
    exact ⟨t, List.mem_of_getElem? ht, hlive⟩

theorem Tidy.stop (h : Tidy slot ts) : Tidy (slot.stop ts).1 (slot.stop ts).2 where
  isLive_current := by simp [current_stop]
  eq_current := by
    intro i t ht hp hc
    rw [getElem?_stop] at ht
    rw [purpose_stop] at hp
    by_cases hi : slot.current = some i
    · rw [if_pos hi] at ht
      obtain ⟨u, -, rfl⟩ := Option.map_eq_some_iff.mp ht
      simp [Timer.cancel] at hc
    · rw [if_neg hi] at ht
      exact absurd (h.eq_current i t ht hp hc) hi

/-- After a stop all timers of the kind are cancelled, so a timer that is scheduled then is the only
one left. -/
theorem Tidy.schedule (h : Tidy slot ts) : Tidy (slot.schedule ts).1 (slot.schedule ts).2 where
  isLive_current := by
    intro i hi
    rw [current_schedule, Option.some_inj] at hi
    refine ⟨_, by rw [getElem?_schedule, if_pos hi.symm], by simp, rfl⟩
  eq_current := by
    intro i t ht hp hc
    rw [current_schedule]
    rw [getElem?_schedule] at ht
    rw [purpose_schedule] at hp
    by_cases hi : i = ts.length
    · rw [hi]
    · rw [if_neg hi] at ht
      have := h.stop.eq_current i t ht (by rw [purpose_stop, hp]) hc
      simp [current_stop] at this

theorem Tidy.cancelled_of_mem_stop (h : Tidy slot ts) (ht : t ∈ (slot.stop ts).2)
    (hp : t.purpose = slot.purpose) : t.cancelled := by
  obtain ⟨i, hi⟩ := List.mem_iff_getElem?.mp ht
  by_contra hc
  have hcurrent := h.stop.eq_current i t hi (by rw [purpose_stop, hp]) (Bool.eq_false_iff.mpr hc)
  simp [current_stop] at hcurrent

/-! ## Slots of other kinds -/

/-- The timer that a tidy slot cancels is not of another kind. -/
theorem Tidy.getElem?_stop_of_ne (h : Tidy slot ts) (ht : ts[i]? = some t)
    (hne : t.purpose ≠ slot.purpose) : (slot.stop ts).2[i]? = some t := by
  rw [getElem?_stop, if_neg, ht]
  intro hi
  obtain ⟨u, hu, hp, -⟩ := h.isLive_current i hi
  rw [ht, Option.some_inj] at hu
  exact hne (hu ▸ hp)

theorem Tidy.stop_other (h : Tidy slot ts) (ho : Tidy other ts)
    (hne : other.purpose ≠ slot.purpose) : Tidy other (slot.stop ts).2 where
  isLive_current := by
    intro i hi
    obtain ⟨t, ht, hp, hlive⟩ := ho.isLive_current i hi
    exact ⟨t, h.getElem?_stop_of_ne ht (hp ▸ hne), hp, hlive⟩
  eq_current := by
    intro i t ht hp hc
    rw [getElem?_stop] at ht
    split at ht
    · obtain ⟨u, -, rfl⟩ := Option.map_eq_some_iff.mp ht
      simp [Timer.cancel] at hc
    · exact ho.eq_current i t ht hp hc

theorem Tidy.schedule_other (h : Tidy slot ts) (ho : Tidy other ts)
    (hne : other.purpose ≠ slot.purpose) : Tidy other (slot.schedule ts).2 where
  isLive_current := by
    intro i hi
    obtain ⟨t, ht, hp, hlive⟩ := (h.stop_other ho hne).isLive_current i hi
    refine ⟨t, ?_, hp, hlive⟩
    have hlt : i < (slot.stop ts).2.length := (List.getElem?_eq_some_iff.mp ht).1
    rw [length_stop] at hlt
    rw [getElem?_schedule, if_neg (by omega), ht]
  eq_current := by
    intro i t ht hp hc
    rw [getElem?_schedule] at ht
    split at ht
    · cases ht
      exact absurd hp.symm hne
    · exact (h.stop_other ho hne).eq_current i t ht hp hc

end TimerSlot

end Kudos
