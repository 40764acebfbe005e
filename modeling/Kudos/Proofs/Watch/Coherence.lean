import Mathlib
import Kudos.Proofs.Session.Coherence
import Kudos.Proofs.Session.Reminder
import Kudos.Proofs.Watch.Step

/-!
# A watcher follows its file

The document of a watcher is the active one of its session until it is detached, and whatever happens
the session shows what it found in it (`Steady`). The timers of the session and of the watcher stand
in one list; each of the two slots is tidy in it (`Alarms`), so a reload that was superseded or stopped
never comes. A reload leaves the text of the file in the document, and touches nothing if there was
nothing new to read.
-/

namespace Kudos.Watch

variable {w w₀ : Watch} {desk : Desk} {document : Document} {bytes : List UInt8} {attached : Bool}
  {path : Path} {language : Option String} {delay : Number}

/-! ## Timers of two kinds -/

/-- The slots for reloads and reminders, with all timers of both. -/
structure Alarms (debounce reminder : TimerSlot Purpose) (ts : Timers Purpose) : Prop where
  debounce_purpose : debounce.purpose = .reload
  reminder_purpose : reminder.purpose = .reminder
  debounce_tidy : debounce.Tidy ts
  reminder_tidy : reminder.Tidy ts

section

variable {debounce reminder : TimerSlot Purpose} {ts : Timers Purpose}

theorem Alarms.debounce_ne (h : Alarms debounce reminder ts) :
    debounce.purpose ≠ reminder.purpose := by
  rw [h.debounce_purpose, h.reminder_purpose]
  decide

theorem Alarms.schedule_debounce (h : Alarms debounce reminder ts) :
    Alarms (debounce.schedule ts).1 reminder (debounce.schedule ts).2 where
  debounce_purpose := by rw [TimerSlot.purpose_schedule, h.debounce_purpose]
  reminder_purpose := h.reminder_purpose
  debounce_tidy := h.debounce_tidy.schedule
  reminder_tidy := h.debounce_tidy.schedule_other h.reminder_tidy h.debounce_ne.symm

theorem Alarms.stop_debounce (h : Alarms debounce reminder ts) :
    Alarms (debounce.stop ts).1 reminder (debounce.stop ts).2 where
  debounce_purpose := by rw [TimerSlot.purpose_stop, h.debounce_purpose]
  reminder_purpose := h.reminder_purpose
  debounce_tidy := h.debounce_tidy.stop
  reminder_tidy := h.debounce_tidy.stop_other h.reminder_tidy h.debounce_ne.symm

theorem Alarms.schedule_reminder (h : Alarms debounce reminder ts) :
    Alarms debounce (reminder.schedule ts).1 (reminder.schedule ts).2 where
  debounce_purpose := h.debounce_purpose
  reminder_purpose := by rw [TimerSlot.purpose_schedule, h.reminder_purpose]
  debounce_tidy := h.reminder_tidy.schedule_other h.debounce_tidy h.debounce_ne
  reminder_tidy := h.reminder_tidy.schedule

end

/-! ## The invariant -/

/-- What stays as it was at the opening, and what the session of a watcher shows. -/
structure Steady (w₀ : Watch) (attached : Bool) (w : Watch) : Prop where
  path_eq : w.path = w₀.path
  language_eq : w.buffer.document.language = w₀.buffer.document.language
  notifier_eq : w.desk.session.notifier = w₀.desk.session.notifier
  active_eq : w.desk.session.active = if attached then some w.buffer else none
  coherent : w.desk.session.Coherent
  alarms : Alarms w.debounce w.desk.session.reminder w.desk.session.timers

/-- A reload keeps a tag that is not empty. -/
theorem language_renewed (h : w.buffer.document.language.isEmpty = false) :
    (w.renewed bytes).language = w.buffer.document.language := by
  unfold renewed Document.ofBytes
  simp [h]

theorem Steady.accept (h : Steady w₀ attached w)
    (hlanguage : document.language = w.buffer.document.language) :
    Steady w₀ attached (w.accept document) := by
  -- either way the edit puts the reminder off
  have hclock := h.alarms.schedule_reminder
  cases attached with
  | true =>
    have hsession := session_accept_of_active h.active_eq document
    dsimp only at hsession
    refine ⟨h.path_eq, hlanguage.trans h.language_eq, ?_, ?_, ?_, ?_⟩
    · rw [hsession]
      exact h.notifier_eq
    · rw [hsession]
      rfl
    · rw [hsession]
      exact Session.coherent_refresh _ fun b hb => by cases hb; rfl
    · rw [hsession]
      exact hclock
  | false =>
    have hsession := session_accept_of_none h.active_eq document
    dsimp only at hsession
    have hcoherent := h.coherent.armReminder
    refine ⟨h.path_eq, hlanguage.trans h.language_eq, ?_, ?_, ?_, ?_⟩
    · rw [hsession]
      exact h.notifier_eq
    · rw [hsession]
      exact h.active_eq
    · rw [hsession]
      exact ⟨hcoherent.1, hcoherent.2, hcoherent.3, hcoherent.4⟩
    · rw [hsession]
      exact hclock

theorem Steady.reloaded (h : Steady w₀ attached w)
    (hlanguage : w₀.buffer.document.language.isEmpty = false) :
    Steady w₀ attached (w.step .reloaded) := by
  rw [step_reloaded]
  split
  · exact ⟨h.1, h.2, h.3, h.4, h.5, h.6⟩
  · split
    · exact h
    · refine h.accept (language_renewed ?_)
      rw [h.language_eq, hlanguage]

/-- Every event keeps the invariant, and only a detachment ends the attachment. -/
theorem Steady.step (h : Steady w₀ attached w)
    (hlanguage : w₀.buffer.document.language.isEmpty = false) (e : Event) :
    Steady w₀ (attached && decide (e ≠ .detached)) (w.step e) := by
  have attached_eq (hne : e ≠ .detached) : (attached && decide (e ≠ .detached)) = attached := by
    simp [hne]
  cases e with
  | written p bytes =>
    rw [attached_eq (by simp)]
    exact ⟨h.1, h.2, h.3, h.4, h.5, h.6⟩
  | deleted p =>
    rw [attached_eq (by simp)]
    exact ⟨h.1, h.2, h.3, h.4, h.5, h.6⟩
  | reported e =>
    rw [attached_eq (by simp)]
    show Steady w₀ attached (w.dispatch e)
    unfold dispatch
    split
    · exact ⟨h.1, h.2, h.3, h.4, ⟨h.5.1, h.5.2, h.5.3, h.5.4⟩, h.alarms.schedule_debounce⟩
    · exact h
  | reloaded =>
    rw [attached_eq (by simp)]
    exact h.reloaded hlanguage
  | fired i =>
    rw [attached_eq (by simp), step_fired]
    split
    · have hsession := Session.session_remind w.desk
      exact ⟨h.1, h.2, hsession ▸ h.3, hsession ▸ h.4, hsession ▸ h.5, hsession ▸ h.6⟩
    · exact h.reloaded hlanguage
    · exact h
  | stopped =>
    rw [attached_eq (by simp)]
    exact ⟨h.1, h.2, h.3, h.4, ⟨h.5.1, h.5.2, h.5.3, h.5.4⟩, h.alarms.stop_debounce⟩
  | themed name =>
    rw [attached_eq (by simp)]
    exact ⟨h.1, h.2, h.3, h.4, h.coherent.changeTheme name, h.6⟩
  | detached =>
    have hdetached : (attached && decide (Event.detached ≠ .detached)) = false := by simp
    rw [hdetached]
    exact ⟨h.1, h.2, h.3, rfl, h.coherent.switchTo none, h.6⟩

theorem Steady.run (h : Steady w₀ attached w)
    (hlanguage : w₀.buffer.document.language.isEmpty = false) (es : List Event) :
    Steady w₀ (attached && decide (.detached ∉ es)) (w.run es) := by
  induction es generalizing w attached with
  | nil => simpa using h
  | cons e es ih =>
    have hattached : (attached && decide (e ≠ .detached) && decide (.detached ∉ es)) =
        (attached && decide (.detached ∉ e :: es)) := by
      rw [Bool.and_assoc, ← Bool.decide_and]
      simp [eq_comm]
    rw [← hattached]
    exact ih (h.step hlanguage e)

/-! ## The opening -/

theorem start?_eq_ok (h : start? desk path language delay = .ok w) :
    ∃ bytes, desk.host.files.read (desk.host.files.resolve path) = .ok bytes ∧
      w = { path := desk.host.files.resolve path
            buffer := ⟨0, .ofBytes (desk.host.files.resolve path) language bytes⟩
            debounce := { delay, purpose := .reload }
            desk := desk.step
              (.opened ⟨0, .ofBytes (desk.host.files.resolve path) language bytes⟩) } := by
  unfold start? Document.open? at h
  dsimp only at h
  cases hread : desk.host.files.read (desk.host.files.resolve path) with
  | error e => rw [hread] at h; cases h
  | ok bytes =>
    rw [hread] at h
    cases h
    exact ⟨bytes, rfl, rfl⟩

theorem language_ofBytes_ne (p : Path) (language : Option String) (bytes : List UInt8) :
    (Document.ofBytes p language bytes).language.isEmpty = false := by
  have hpath : (Language.ofPath p).isEmpty = false := by
    unfold Language.ofPath
    dsimp only
    split
    · next found =>
      have hmem := List.mem_of_find?_eq_some found
      have hall : ∀ e ∈ Language.extensions, e.2.isEmpty = false := by decide
      exact hall _ hmem
    · decide
  unfold Document.ofBytes
  cases language with
  | none => exact hpath
  | some tag =>
    dsimp only
    split
    · exact hpath
    · next htag => exact Bool.eq_false_iff.mpr htag

theorem steady_start (settings : Settings) (notifier : Notifier) (sink : Sink) (identity : Identity)
    (host : Host) (earlier : List Session.Event)
    (h : start? (Desk.run ⟨.start settings notifier sink identity, host⟩ earlier) path language delay =
      .ok w) : Steady w true w ∧ w.buffer.document.language.isEmpty = false := by
  obtain ⟨bytes, -, rfl⟩ := start?_eq_ok h
  set desk := Desk.run ⟨.start settings notifier sink identity, host⟩ earlier
  set document := Document.ofBytes (desk.host.files.resolve path) language bytes
  have hringing := ((Session.ringing_start settings notifier sink identity).run
    (d := ⟨.start settings notifier sink identity, host⟩) earlier).step (.opened ⟨0, document⟩)
  refine ⟨⟨rfl, rfl, rfl, ?_, ?_, ?_⟩, language_ofBytes_ne _ _ _⟩
  · exact Session.active_checkKeyword _
  · exact Session.coherent_switchTo _ _
  · refine ⟨rfl, hringing.purpose_eq, TimerSlot.tidy_of_forall_ne rfl fun t ht => ?_, hringing.tidy⟩
    rw [hringing.purposes_eq t ht]
    show Purpose.reminder ≠ .reload
    decide

/-- What holds at every moment after a file was opened for watching, in a session that may have been
used before. The language stays; the document is the active one until it is detached; the session
shows what it found in the active document; and only the last reload that was asked for can come,
unless it was stopped. A reload leaves the text of the file in the document. If the file cannot be
read, it only adds a warning, and if it holds the same text it does nothing. -/
theorem follows_file_of_run (settings : Settings) (notifier : Notifier) (sink : Sink)
    (identity : Identity) (host : Host) (earlier : List Session.Event) (path : Path)
    (language : Option String) (delay : Number) (w₀ : Watch)
    (hopen : start? (Desk.run ⟨.start settings notifier sink identity, host⟩ earlier) path language
      delay = .ok w₀) (es : List Event) :
    let w := w₀.run es
    let s := w.desk.session
    let Reloads (e : Event) : Prop :=
      e = .reloaded ∨ ∃ i, e = .fired i ∧ s.timers.firing? i = some .reload
    w.buffer.document.language = w₀.buffer.document.language ∧
      s.active = (if .detached ∈ es then none else some w.buffer) ∧
      (∀ b, s.active = some b → s.result = Analysis.ofDocument b.document) ∧
      s.decorations = (s.result.lines.map fun n => { line := Int.ofNat n, theme := s.theme }) ∧
      s.hasImport = s.result.hasImport ∧
      (∀ i, s.timers.firing? i = some .reload ↔ w.debounce.current = some i) ∧
      (∀ i t, s.timers[i]? = some t → t.purpose = .reload → t.cancelled = false →
        w.debounce.current = some i) ∧
      (∀ t ∈ (w.step .stopped).desk.session.timers, t.purpose = .reload → t.cancelled) ∧
      ∀ e, Reloads e →
        match w.desk.host.files.read w₀.path with
        | .error _ => w.step e = w.onHost (·.warn .documentUnreadable)
        | .ok bytes => (w.step e).buffer.document.text = textOf bytes ∧
            (w.buffer.document.text = textOf bytes → w.step e = w) := by
  intro w s Reloads
  obtain ⟨hstart, hlanguage⟩ := steady_start settings notifier sink identity host earlier hopen
  have h : Steady w₀ (true && decide (.detached ∉ es)) w := hstart.run hlanguage es
  obtain ⟨hdebounce, -, htidy, -⟩ := h.alarms
  refine ⟨h.language_eq, ?_, h.coherent.result_eq, h.coherent.decorations_eq, h.coherent.hasImport_eq,
    ?_, ?_, ?_, ?_⟩
  · rw [h.active_eq]
    by_cases hdetached : .detached ∈ es <;> simp [hdetached]
  · intro i
    rw [← hdebounce]
    exact ⟨htidy.current_of_firing, htidy.firing_of_current⟩
  · exact fun i t ht hp => htidy.eq_current i t ht (hp.trans hdebounce.symm)
  · exact fun t ht hp => htidy.cancelled_of_mem_stop ht (hp.trans hdebounce.symm)
  · intro e he
    have hreload : w.step e = w.step .reloaded := by
      rcases he with rfl | ⟨i, rfl, hi⟩
      · rfl
      · rw [step_fired]
        simp only [show w.desk.session.timers.firing? i = some .reload from hi]
    have htext := text_reloaded w
    rw [h.path_eq] at htext
    rw [hreload]
    exact htext

/-- A file is written and two events report it; the second one puts the reload off, and it is done
although the theme changed meanwhile. When the document is detached and the file deleted, a reload
only warns. -/
theorem follows_file_of_events :
    let file : Path := .ofText "/app.py".toList
    let before := Utf8.encode "x = 1\n".toList
    let behind := Utf8.encode "import os\r\nx = 1\n".toList
    let desk : Desk :=
      { session := .start {} (.recording false) (.memory fun _ => none) ⟨⟨[], []⟩, none⟩
        host := { files := { entries := [(file.names, .file before)] } } }
    let es : List Event := [.written file behind, .reported ⟨file.text, [], false⟩,
      .reported ⟨"other.py".toList, "app.py".toList, false⟩, .themed "Light".toList]
    let es' := es ++ [.fired 1, .detached, .deleted file]
    ∃ w₀, start? desk file none (.whole 1) = .ok w₀ ∧
      let w := w₀.run es
      let w' := w₀.run es'
      w.desk.session.timers.firing? 0 = none ∧ w.desk.session.timers.firing? 1 = some .reload ∧
        (w.step (.fired 1)).buffer.document.text = "import os\nx = 1\n".toList ∧
        w'.desk.session.active = none ∧
        w'.step .reloaded = w'.onHost (·.warn .documentUnreadable) := by
  intro file before behind desk es es'
  let w₀ : Watch :=
    { path := file
      buffer := ⟨0, { text := "x = 1\n".toList, language := "python", path := some file.text }⟩
      debounce := { delay := .whole 1, purpose := .reload }
      desk := desk.step
        (.opened ⟨0, { text := "x = 1\n".toList, language := "python", path := some file.text }⟩) }
  have hopen : start? desk file none (.whole 1) = .ok w₀ := rfl
  have hpath : w₀.path = file := rfl
  have hstale : (w₀.run es).desk.session.timers.firing? 0 = none := by decide +kernel
  have hcurrent : (w₀.run es).debounce.current = some 1 := by decide +kernel
  have hread : (w₀.run es).desk.host.files.read file = .ok behind := by decide +kernel
  have hmissing : (w₀.run es').desk.host.files.read file = .error .notFound := by decide +kernel
  have htext : textOf behind = "import os\nx = 1\n".toList := by decide +kernel
  have hdetached : Event.detached ∈ es' := by simp [es']
  -- from here on nothing is evaluated
  clear_value w₀ es es'
  have run := follows_file_of_run {} (.recording false) (.memory fun _ => none) ⟨⟨[], []⟩, none⟩
    desk.host [] file none (.whole 1) w₀ hopen
  obtain ⟨-, -, -, -, -, hfiring, -, -, hreload⟩ := run es
  obtain ⟨-, hactive, -, -, -, -, -, -, hreload'⟩ := run es'
  have hlive := (hfiring 1).mpr hcurrent
  refine ⟨w₀, hopen, hstale, hlive, ?_, ?_, ?_⟩
  · have hstep := hreload (.fired 1) (.inr ⟨1, rfl, hlive⟩)
    rw [hpath, hread] at hstep
    exact hstep.1.trans htext
  · rw [hactive, if_pos hdetached]
  · have hstep := hreload' .reloaded (.inl rfl)
    rwa [hpath, hmissing] at hstep

end Kudos.Watch
