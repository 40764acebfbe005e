import Mathlib
import Kudos.Proofs.Timer

/-!
# Runs of a slot

A slot on its own is told to schedule and to stop, and any timer that it has ever made may be fired, any
number of times. `Sole` is what each of these steps keeps: every timer has been started, the current one
is the last that was made, and all others have been cancelled. So the callback is run exactly when the
timer that is current at that moment fires (`sole_of_run`).
-/

namespace Kudos

/-- What can happen to a slot and its timers. -/
inductive SlotStep where
  /-- A timer is scheduled. -/
  | scheduled
  /-- The pending timer is stopped. -/
  | stopped
  /-- The delay of a timer is over. -/
  | fired (timer : Nat)
  deriving DecidableEq

/-- A slot with the timers that it has made. -/
structure SlotState (α : Type) where
  /-- The slot. -/
  slot : TimerSlot α
  /-- The timers, in the order in which they were made. -/
  timers : Timers α := []
  /-- How often a timer has run the callback. -/
  callbacks : Nat := 0

variable {α : Type} {slot : TimerSlot α} {ts : Timers α} {s : SlotState α} {e : SlotStep}
  {steps : List SlotStep} {i : Nat}

/-- Whether nothing was scheduled since the last stop, or ever. -/
def Resting (steps : List SlotStep) : Prop :=
  ∀ before behind, steps = before ++ .scheduled :: behind → .stopped ∈ behind

/-- The last step decides, unless it fires a timer. -/
theorem resting_concat : Resting (steps ++ [e]) ↔ e = .stopped ∨ e ≠ .scheduled ∧ Resting steps := by
  constructor
  · intro h
    by_cases hstop : e = .stopped
    · exact .inl hstop
    refine .inr ⟨?_, fun before behind hsplit => ?_⟩
    · rintro rfl
      simpa using h steps [] rfl
    · have hmem := h before (behind ++ [e]) (by simp [hsplit])
      rcases List.mem_append.mp hmem with hmem | hmem
      · exact hmem
      · exact absurd (List.mem_singleton.mp hmem).symm hstop
  · intro h before behind hsplit
    rcases List.eq_nil_or_concat behind with rfl | ⟨behind, e', rfl⟩
    · obtain ⟨-, he⟩ := List.append_inj' hsplit rfl
      obtain rfl : e = .scheduled := by simpa using he
      simp at h
    · rw [List.concat_eq_append, ← List.cons_append, ← List.append_assoc] at hsplit
      obtain ⟨rfl, he⟩ := List.append_inj' hsplit rfl
      obtain rfl : e = e' := by simpa using he
      rcases h with rfl | ⟨-, h⟩
      · simp
      · simpa using .inl (h before behind rfl)

/-! ## The invariant of a slot and its timers -/

namespace TimerSlot

/-- The current timer is the last that was made, and it is the only one that is not cancelled. -/
structure Sole (slot : TimerSlot α) (ts : Timers α) : Prop where
  started : ∀ (i : Nat) (t : Timer α), ts[i]? = some t → t.started
  cancelled_iff : ∀ (i : Nat) (t : Timer α), ts[i]? = some t → (t.cancelled ↔ slot.current ≠ some i)
  last : ∀ i, slot.current = some i → i + 1 = ts.length

theorem Sole.stop (h : Sole slot ts) : Sole (slot.stop ts).1 (slot.stop ts).2 where
  started := by
    intro i t ht
    rw [getElem?_stop] at ht
    split at ht
    · obtain ⟨u, hu, rfl⟩ := Option.map_eq_some_iff.mp ht
      exact h.started i u hu
    · exact h.started i t ht
  cancelled_iff := by
    intro i t ht
    rw [getElem?_stop] at ht
    rw [current_stop]
    refine iff_of_true ?_ nofun
    by_cases hi : slot.current = some i
    · rw [if_pos hi] at ht
      obtain ⟨u, -, rfl⟩ := Option.map_eq_some_iff.mp ht
      rfl
    · rw [if_neg hi] at ht
      exact (h.cancelled_iff i t ht).mpr hi
  last := by
    intro i hi
    rw [current_stop] at hi
    cases hi

/-- After a stop all timers are cancelled, and the one that is made then comes behind them. -/
theorem Sole.schedule (h : Sole slot ts) : Sole (slot.schedule ts).1 (slot.schedule ts).2 where
  started := by
    intro i t ht
    rw [getElem?_schedule] at ht
    split at ht
    · cases ht
      rfl
    · exact h.stop.started i t ht
  cancelled_iff := by
    intro i t ht
    rw [getElem?_schedule] at ht
    rw [current_schedule, Ne, Option.some_inj]
    by_cases hi : i = ts.length
    · rw [if_pos hi] at ht
      cases ht
      exact iff_of_false nofun (not_not.mpr hi.symm)
    · rw [if_neg hi] at ht
      have hcancelled := h.stop.cancelled_iff i t ht
      rw [current_stop] at hcancelled
      exact iff_of_true (hcancelled.mpr nofun) (Ne.symm hi)
  last := by
    intro i hi
    rw [current_schedule, Option.some_inj] at hi
    rw [length_schedule, hi]

theorem Sole.exists_current (h : Sole slot ts) (hi : slot.current = some i) :
    ∃ t : Timer α, ts[i]? = some t := by
  have hlast := h.last i hi
  exact ⟨_, List.getElem?_eq_getElem (by omega)⟩

/-- Only the current timer can fire. -/
theorem Sole.firing_iff (h : Sole slot ts) : (ts.firing? i).isSome ↔ slot.current = some i := by
  rw [Option.isSome_iff_exists]
  simp only [Timers.firing?_eq_some]
  constructor
  · rintro ⟨_, t, ht, hlive, -⟩
    have hcancelled := (h.cancelled_iff i t ht).not
    rw [not_not] at hcancelled
    exact hcancelled.mp (by simp [Timer.cancelled_of_isLive hlive])
  · intro hi
    obtain ⟨t, ht⟩ := h.exists_current hi
    have hcancelled : ¬ t.cancelled := fun hc => (h.cancelled_iff i t ht).mp hc hi
    have hlive : t.isLive := by simp [Timer.isLive, h.started i t ht, hcancelled]
    exact ⟨t.purpose, t, ht, hlive, rfl⟩

end TimerSlot

/-! ## Steps and runs -/

namespace SlotState

/-- A slot that has made no timer yet. -/
def start (delay : Number) (purpose : α) : SlotState α :=
  { slot := { delay, purpose } }

/-- What a step does. A timer that fires runs the callback only if it is live. -/
def step (s : SlotState α) : SlotStep → SlotState α
  | .scheduled =>
    let (slot, timers) := s.slot.schedule s.timers
    { s with slot, timers }
  | .stopped =>
    let (slot, timers) := s.slot.stop s.timers
    { s with slot, timers }
  | .fired i => if (s.timers.firing? i).isSome then { s with callbacks := s.callbacks + 1 } else s

/-- The state after some steps. -/
def run (s : SlotState α) (steps : List SlotStep) : SlotState α :=
  steps.foldl step s

/-- Whether a step fires the timer that is current. -/
def hitsCurrent (s : SlotState α) : SlotStep → Bool
  | .fired i => s.slot.current = some i
  | _ => false

/-- How many of some steps fire the timer that is current when they come. -/
def hits (s : SlotState α) (steps : List SlotStep) : Nat :=
  (List.range steps.length).countP fun k => steps[k]?.any (s.run (steps.take k)).hitsCurrent

theorem run_concat (s : SlotState α) (steps : List SlotStep) (e : SlotStep) :
    s.run (steps ++ [e]) = (s.run steps).step e :=
  List.foldl_concat ..

theorem hits_concat (s : SlotState α) (steps : List SlotStep) (e : SlotStep) :
    s.hits (steps ++ [e]) = s.hits steps + if (s.run steps).hitsCurrent e then 1 else 0 := by
  have earlier : ∀ k ∈ List.range steps.length,
      ((steps ++ [e])[k]?.any (s.run ((steps ++ [e]).take k)).hitsCurrent ↔
        steps[k]?.any (s.run (steps.take k)).hitsCurrent) := by
    intro k hk
    have hlt := List.mem_range.mp hk
    rw [List.getElem?_append_left hlt, List.take_append_of_le_length hlt.le]
  unfold hits
  rw [List.length_append, List.length_singleton, List.range_succ, List.countP_append,
    List.countP_congr earlier]
  simp [List.countP_cons]

theorem slot_fired (s : SlotState α) (i : Nat) :
    (s.step (.fired i)).slot = s.slot ∧ (s.step (.fired i)).timers = s.timers := by
  unfold step
  dsimp only
  split <;> exact ⟨rfl, rfl⟩

theorem sole_step (h : s.slot.Sole s.timers) (e : SlotStep) :
    (s.step e).slot.Sole (s.step e).timers := by
  cases e with
  | scheduled => exact h.schedule
  | stopped => exact h.stop
  | fired i =>
    obtain ⟨hslot, htimers⟩ := s.slot_fired i
    rw [hslot, htimers]
    exact h

theorem sole_run (h : s.slot.Sole s.timers) (steps : List SlotStep) :
    (s.run steps).slot.Sole (s.run steps).timers := by
  induction steps generalizing s with
  | nil => exact h
  | cons e steps ih => exact ih (sole_step h e)

theorem sole_start (delay : Number) (purpose : α) :
    (start delay purpose).slot.Sole (start delay purpose).timers where
  started := by simp [start]
  cancelled_iff := by simp [start]
  last := by simp [start]

theorem current_step (s : SlotState α) (e : SlotStep) : (s.step e).slot.current = none ↔
    e = .stopped ∨ e ≠ .scheduled ∧ s.slot.current = none := by
  cases e with
  | scheduled =>
    have hcurrent : (s.step .scheduled).slot.current = some s.timers.length :=
      TimerSlot.current_schedule ..
    simp [hcurrent]
  | stopped =>
    have hcurrent : (s.step .stopped).slot.current = none := TimerSlot.current_stop ..
    simp [hcurrent]
  | fired i => simp [(s.slot_fired i).1]

theorem callbacks_step (h : s.slot.Sole s.timers) (e : SlotStep) :
    (s.step e).callbacks = s.callbacks + if s.hitsCurrent e then 1 else 0 := by
  cases e with
  | scheduled => rfl
  | stopped => rfl
  | fired i =>
    unfold step hitsCurrent
    dsimp only
    by_cases hi : s.slot.current = some i
    · rw [if_pos (h.firing_iff.mpr hi), if_pos (by simpa using hi)]
    · rw [if_neg fun hfiring => hi (h.firing_iff.mp hfiring), if_neg (by simpa using hi),
        Nat.add_zero]

/-- After every run of a slot all timers have been started, the current one is the last that was made, and
all others have been cancelled. There is no current one exactly if nothing was scheduled since the last
stop, or ever. The callback was run as often as the timer that was current then was fired, and a further
fire runs it exactly if it is for the current timer. -/
theorem sole_of_run (delay : Number) (purpose : α) (steps : List SlotStep) :
    let s := (start delay purpose).run steps
    (∀ (i : Nat) (t : Timer α), s.timers[i]? = some t → s.slot.current ≠ some i →
        t.started ∧ t.cancelled) ∧
      (∀ i, s.slot.current = some i → i + 1 = s.timers.length ∧
        ∃ t : Timer α, s.timers[i]? = some t ∧ t.started ∧ ¬ t.cancelled) ∧
      (s.slot.current = none ↔
        ∀ before behind, steps = before ++ .scheduled :: behind → .stopped ∈ behind) ∧
      s.callbacks = (start delay purpose).hits steps ∧
      ∀ i, (s.step (.fired i)).callbacks = s.callbacks + if s.slot.current = some i then 1 else 0 := by
  intro s
  have hsole : s.slot.Sole s.timers := sole_run (sole_start delay purpose) steps
  have hresting : ∀ steps, ((start delay purpose).run steps).slot.current = none ↔ Resting steps := by
    intro steps
    induction steps using List.reverseRecOn with
    | nil => exact iff_of_true rfl (by simp [Resting])
    | append_singleton steps e ih => rw [run_concat, current_step, ih, resting_concat]
  have hcallbacks : ∀ steps,
      ((start delay purpose).run steps).callbacks = (start delay purpose).hits steps := by
    intro steps
    induction steps using List.reverseRecOn with
    | nil => rfl
    | append_singleton steps e ih =>
      rw [run_concat, callbacks_step (sole_run (sole_start delay purpose) steps), ih, hits_concat]
  refine ⟨fun i t ht hi => ⟨hsole.started i t ht, (hsole.cancelled_iff i t ht).mpr hi⟩, fun i hi => ?_,
    hresting steps, hcallbacks steps, fun i => ?_⟩
  · obtain ⟨t, ht⟩ := hsole.exists_current hi
    exact ⟨hsole.last i hi, t, ht, hsole.started i t ht, fun hc => (hsole.cancelled_iff i t ht).mp hc hi⟩
  · rw [callbacks_step hsole]
    simp [hitsCurrent]

/-- The timer that was superseded and the one that was stopped run nothing. -/
example : ((start (.whole 30) ()).run
    [.scheduled, .fired 0, .scheduled, .fired 0, .fired 1, .fired 1, .stopped, .fired 1]).callbacks = 3 := by
  decide

end SlotState

end Kudos
