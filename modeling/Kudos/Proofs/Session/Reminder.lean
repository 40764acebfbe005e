import Mathlib
import Kudos.Proofs.Session.Step
import Kudos.Proofs.Statement.Keyword
import Kudos.Proofs.Timer

/-!
# When the reminder is shown

What an event does to the reminder is read off the event and the active document alone
(`Event.reminding`), so a run has a history of schedulings and stops. The slot holds a timer exactly
if that history says that one is pending (`Ringing`), and only this timer can fire, however many stale
ones are tried. Whether the user is reminded is decided once more when it fires, by the document that
is active then.
-/

namespace Kudos

/-- What becomes of the reminder at an event. -/
inductive Reminding where
  | scheduled
  | stopped
  | unchanged
  deriving DecidableEq

namespace Session

open Reminding

variable {s : Session} {e : Event} {es : List Event} {rs : List Reminding} {i : Nat} {d : Desk}

/-- What a check for keywords does to the reminder. -/
def checking : Option Buffer → Reminding
  | none => unchanged
  | some b => if b.document.mentionsImports then scheduled else stopped

/-- What an event does to the reminder, given the document that is active before. -/
def Event.reminding (active : Option Buffer) : Event → Reminding
  | .opened b => checking (some b)
  | .switched b => checking b
  | .edited _ _ | .selected => scheduled
  | .checked => checking active
  | .closed => stopped
  | _ => unchanged

/-- What becomes of the reminder at each event of a run. -/
def remindings (d : Desk) : List Event → List Reminding
  | [] => []
  | e :: es => e.reminding d.session.active :: remindings (d.step e) es

/-- Whether after such a history the timer of number `i` is pending: it was the last to be scheduled,
and there was no stop since. Timers are numbered as they are scheduled. -/
def Pending (rs : List Reminding) (i : Nat) : Prop :=
  ∃ xs ys, rs = xs ++ scheduled :: ys ∧ (∀ r ∈ ys, r = unchanged) ∧ i = xs.count scheduled

/-! ## Histories -/

/-- The last event decides, unless it leaves the reminder as it was. -/
theorem pending_concat {r : Reminding} : Pending (rs ++ [r]) i ↔
    (r = scheduled ∧ i = rs.count scheduled) ∨ (r = unchanged ∧ Pending rs i) := by
  constructor
  · rintro ⟨xs, ys, hrs, hys, rfl⟩
    rcases List.eq_nil_or_concat ys with rfl | ⟨ys, r', rfl⟩
    · obtain ⟨rfl, hr⟩ := List.append_inj' hrs rfl
      exact .inl ⟨by simpa using hr, rfl⟩
    · rw [List.concat_eq_append, ← List.cons_append, ← List.append_assoc] at hrs
      obtain ⟨rfl, hr⟩ := List.append_inj' hrs rfl
      obtain rfl : r = r' := by simpa using hr
      exact .inr ⟨hys r (by simp), xs, ys, rfl, fun r hr => hys r (by simp [hr]), rfl⟩
  · rintro (⟨rfl, rfl⟩ | ⟨rfl, xs, ys, rfl, hys, rfl⟩)
    · exact ⟨rs, [], rfl, by simp, rfl⟩
    · refine ⟨xs, ys ++ [unchanged], by simp, fun r hr => ?_, rfl⟩
      rcases List.mem_append.mp hr with hr | hr
      · exact hys r hr
      · exact List.mem_singleton.mp hr

theorem count_of_pending (h : Pending rs i) : rs.count scheduled = i + 1 := by
  obtain ⟨xs, ys, rfl, hys, rfl⟩ := h
  have none : ys.count scheduled = 0 := by
    rw [List.count_eq_zero]
    intro hmem
    exact absurd (hys _ hmem) (by decide)
  simp [none]

/-! ## The slot follows the history -/

/-- The slot of the reminder with all timers. -/
def clock (s : Session) : TimerSlot Purpose × Timers Purpose :=
  (s.reminder, s.timers)

theorem clock_checkKeyword (s : Session) : s.checkKeyword.clock =
    match checking s.active with
    | scheduled => s.armReminder.clock
    | stopped => s.stopReminder.clock
    | unchanged => s.clock := by
  unfold checkKeyword
  cases s.active with
  | none => rfl
  | some b =>
    unfold checking
    dsimp only
    split <;> rfl

theorem clock_effect (s : Session) (e : Event) : (Event.effect s e).clock =
    match e.reminding s.active with
    | scheduled => s.armReminder.clock
    | stopped => s.stopReminder.clock
    | unchanged => s.clock := by
  cases e with
  | opened b => exact clock_checkKeyword _
  | switched b =>
    cases b with
    | none => rfl
    | some b => exact clock_checkKeyword _
  | edited b edits =>
    unfold Event.effect
    dsimp only
    split <;> rfl
  | checked => exact clock_checkKeyword s
  | _ => rfl

/-- The slot of the reminder agrees with a history. All timers of a session are reminders, so they
are numbered in the order of the history. -/
structure Ringing (rs : List Reminding) (slot : TimerSlot Purpose) (ts : Timers Purpose) : Prop where
  purpose_eq : slot.purpose = .reminder
  purposes_eq : ∀ t ∈ ts, t.purpose = .reminder
  tidy : slot.Tidy ts
  length_eq : ts.length = rs.count scheduled
  current_iff : ∀ i, slot.current = some i ↔ Pending rs i

theorem ringing_start (settings : Settings) (notifier : Notifier) (sink : Sink)
    (identity : Identity) :
    Ringing [] (start settings notifier sink identity).reminder
      (start settings notifier sink identity).timers where
  purpose_eq := rfl
  purposes_eq := by simp [start]
  tidy := TimerSlot.tidy_of_forall_ne rfl (by simp [start])
  length_eq := rfl
  current_iff := by simp [start, Pending]

variable {slot : TimerSlot Purpose} {ts : Timers Purpose}

theorem Ringing.schedule (h : Ringing rs slot ts) :
    Ringing (rs ++ [scheduled]) (slot.schedule ts).1 (slot.schedule ts).2 where
  purpose_eq := by rw [TimerSlot.purpose_schedule, h.purpose_eq]
  purposes_eq := by
    intro t ht
    rcases TimerSlot.mem_schedule ht with hp | ⟨u, hu, hp⟩
    · rw [hp, h.purpose_eq]
    · rw [hp, h.purposes_eq u hu]
  tidy := h.tidy.schedule
  length_eq := by simp [TimerSlot.length_schedule, h.length_eq]
  current_iff := by
    intro i
    rw [TimerSlot.current_schedule, Option.some_inj, pending_concat, h.length_eq]
    simp [eq_comm]

theorem Ringing.stop (h : Ringing rs slot ts) :
    Ringing (rs ++ [stopped]) (slot.stop ts).1 (slot.stop ts).2 where
  purpose_eq := by rw [TimerSlot.purpose_stop, h.purpose_eq]
  purposes_eq := by
    intro t ht
    obtain ⟨u, hu, hp⟩ := TimerSlot.mem_stop ht
    rw [hp, h.purposes_eq u hu]
  tidy := h.tidy.stop
  length_eq := by simp [TimerSlot.length_stop, h.length_eq]
  current_iff := by
    intro i
    simp [TimerSlot.current_stop, pending_concat]

theorem Ringing.unchanged (h : Ringing rs slot ts) : Ringing (rs ++ [unchanged]) slot ts where
  purpose_eq := h.purpose_eq
  purposes_eq := h.purposes_eq
  tidy := h.tidy
  length_eq := by simp [h.length_eq]
  current_iff := by
    intro i
    simp [h.current_iff, pending_concat]

theorem Ringing.step (h : Ringing rs d.session.reminder d.session.timers) (e : Event) :
    Ringing (rs ++ [e.reminding d.session.active]) (d.step e).session.reminder
      (d.step e).session.timers := by
  have hclock : (d.step e).session.clock = (Event.effect d.session e).clock :=
    eq_of_core clock (step_spec d e).1
  rw [clock_effect] at hclock
  cases hr : e.reminding d.session.active with
  | scheduled =>
    rw [hr] at hclock
    obtain ⟨hslot, hts⟩ := Prod.mk.inj hclock
    rw [hslot, hts]
    exact h.schedule
  | stopped =>
    rw [hr] at hclock
    obtain ⟨hslot, hts⟩ := Prod.mk.inj hclock
    rw [hslot, hts]
    exact h.stop
  | unchanged =>
    rw [hr] at hclock
    obtain ⟨hslot, hts⟩ := Prod.mk.inj hclock
    rw [hslot, hts]
    exact h.unchanged

theorem Ringing.run (h : Ringing rs d.session.reminder d.session.timers) (es : List Event) :
    Ringing (rs ++ remindings d es) (d.run es).session.reminder (d.run es).session.timers := by
  induction es generalizing d rs with
  | nil => simpa [remindings] using h
  | cons e es ih =>
    have := ih (h.step e)
    rwa [List.append_assoc] at this

/-- Only the pending timer fires. -/
theorem Ringing.firing_iff (h : Ringing rs slot ts) :
    ts.firing? i = some .reminder ↔ Pending rs i := by
  rw [← h.current_iff, ← h.purpose_eq]
  exact ⟨h.tidy.current_of_firing, h.tidy.firing_of_current⟩

theorem exists_of_reminder_mem (h : Message.reminder ∈ e.messages s) :
    ∃ i, e = .fired i ∧ s.timers.firing? i = some .reminder ∧
      ∃ b, s.active = some b ∧ b.document.mentionsImports := by
  cases e with
  | edited b edits =>
    have hnew : Message.reminder ≠ Detector.newImportMessage := mt String.toList_inj.mp (by decide)
    dsimp only [Event.messages] at h
    split at h
    · exact absurd (List.mem_singleton.mp h) hnew
    · exact absurd h List.not_mem_nil
  | thanked b line =>
    have hsent : Message.reminder ≠ Message.thanksSent := mt String.toList_inj.mp (by decide)
    have hsurvey : Message.reminder ≠ Message.survey := mt String.toList_inj.mp (by decide)
    rcases List.mem_pair.mp h with heq | heq
    · exact absurd heq hsent
    · exact absurd heq hsurvey
  | fired i =>
    dsimp only [Event.messages] at h
    split at h
    · next hfiring =>
      obtain ⟨hfiring, hactive⟩ := hfiring
      obtain ⟨b, hb, hmention⟩ := Option.any_eq_true _ _ |>.mp hactive
      exact ⟨i, rfl, hfiring, b, hb, hmention⟩
    · exact absurd h List.not_mem_nil
  | _ => exact absurd h List.not_mem_nil

/-- The reminder is shown exactly when the timer that was scheduled last fires, nothing has stopped it
since, and the active document mentions imports then. Right after a document was opened or switched to
a timer is live exactly if it mentions imports, as it does whenever anything in it is flagged. -/
theorem reminder_of_run (settings : Settings) (notifier : Notifier) (sink : Sink)
    (identity : Identity) (host : Host) (es : List Event) (e : Event) :
    let d₀ : Desk := ⟨start settings notifier sink identity, host⟩
    let d := d₀.run es
    let Mentions (doc : Document) : Prop :=
      "import".toList <:+: doc.text ∨ "require".toList <:+: doc.text
    let Due : Prop := ∃ i b, e = .fired i ∧ Pending (remindings d₀ es) i ∧
      i + 1 = d.session.timers.length ∧ d.session.active = some b ∧ Mentions b.document
    notifier.Tells (fun m => m = Message.reminder → Due) d.host (d.step e).host ∧
      (Due → (d.step e).host =
        ((notifier.inform Message.reminder (some settings.dismiss)).run d.host).2) ∧
      (∀ b, e = .opened b ∨ e = .switched (some b) →
        ((∃ t ∈ (d.step e).session.timers, t.isLive) ↔ Mentions b.document)) ∧
      ∀ doc, (Analysis.ofDocument doc).hasImport → Mentions doc := by
  intro d₀ d Mentions Due
  have hstart : Ringing [] d₀.session.reminder d₀.session.timers :=
    ringing_start settings notifier sink identity
  have hringing : Ringing (remindings d₀ es) d.session.reminder d.session.timers := hstart.run es
  obtain ⟨hsettings, hnotifier⟩ := settings_run d₀ es
  refine ⟨?_, ?_, ?_, ?_⟩
  · have told := (step_spec d e).2
    rw [show d.session.notifier = notifier from hnotifier] at told
    refine told.mono fun m hm hreminder => ?_
    obtain ⟨i, he, hfiring, b, hactive, hmention⟩ := exists_of_reminder_mem (hreminder ▸ hm)
    have hpending := hringing.firing_iff.mp hfiring
    refine ⟨i, b, he, hpending, ?_, hactive, Document.mentionsImports_iff.mp hmention⟩
    rw [hringing.length_eq, count_of_pending hpending]
  · rintro ⟨i, b, rfl, hpending, -, hactive, hmention⟩
    have hany : d.session.active.any (·.document.mentionsImports) := by
      rw [hactive]
      exact Document.mentionsImports_iff.mpr hmention
    rw [step_fired, if_pos (hringing.firing_iff.mpr hpending), run_remind, if_pos hany]
    rw [show d.session.notifier = notifier from hnotifier,
      show d.session.settings = settings from hsettings]
  · intro b he
    have hnext := hringing.step e
    have hchecked : e.reminding d.session.active = checking (some b) := by
      rcases he with rfl | rfl <;> rfl
    have hlive := hnext.tidy.exists_isLive fun t ht => by rw [hnext.purposes_eq t ht, hnext.purpose_eq]
    rw [hlive, Option.isSome_iff_exists]
    simp only [hnext.current_iff, hchecked, checking, pending_concat]
    rw [show Mentions b.document ↔ b.document.mentionsImports from Document.mentionsImports_iff.symm]
    cases b.document.mentionsImports <;> simp
  · exact fun doc hdoc => Document.mentionsImports_iff.mp (Analysis.mentionsImports_of_hasImport hdoc)

/-- A move of the selection puts the reminder off: the first timer shows nothing any more, and the
second one shows it. -/
theorem reminder_of_selection :
    let a : Buffer := ⟨1, { text := "import os".toList, language := "python" }⟩
    let d₀ : Desk :=
      ⟨start {} (.recording false) (.memory fun _ => none) ⟨⟨[], []⟩, none⟩, {}⟩
    let d := d₀.run [.opened a, .selected]
    (d.step (.fired 0)).host.notices = [] ∧
      (d.step (.fired 1)).host.notices =
        [.shown Message.reminder (some ({} : Settings).dismiss)] ∧
      ∃ t ∈ (d₀.step (.opened a)).session.timers, t.isLive := by
  intro a d₀ d
  have hmention : "import".toList <:+: a.document.text := by decide
  have hshown := (reminder_of_run {} (.recording false) (.memory fun _ => none) ⟨⟨[], []⟩, none⟩ {}
    [.opened a, .selected] (.fired 1)).2.1
      ⟨1, a, rfl, ⟨[.scheduled], [], by decide +kernel, by simp, rfl⟩, rfl, rfl, .inl hmention⟩
  have hlive := (reminder_of_run {} (.recording false) (.memory fun _ => none) ⟨⟨[], []⟩, none⟩ {}
    [] (.opened a)).2.2.1 a (.inl rfl)
  refine ⟨by decide +kernel, ?_, hlive.mpr (.inl hmention)⟩
  rw [hshown]
  rfl

end Session

end Kudos
