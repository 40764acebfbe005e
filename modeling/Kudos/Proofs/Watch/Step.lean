import Mathlib
import Kudos.Watch
import Kudos.Proofs.Diff
import Kudos.Proofs.Session.Step

/-!
# One event of a watcher

Of all events only a reload has more than one step: it fails, finds nothing new, or takes the new
document over. `step_reloaded` and `step_fired` say so as equations; for the other events the
definition does.
-/

namespace Kudos.Watch

variable {w : Watch}

/-- The watcher after an event, which may have failed on the way. -/
def step (w : Watch) (e : Event) : Watch :=
  ((perform e).run w).2

/-- The watcher after some events. -/
def run (w : Watch) (es : List Event) : Watch :=
  es.foldl step w

@[simp] theorem run_nil (w : Watch) : w.run [] = w := rfl

@[simp] theorem run_cons (w : Watch) (e : Event) (es : List Event) :
    w.run (e :: es) = (w.step e).run es := rfl

/-- The text that a file of these bytes holds. -/
def textOf (bytes : List UInt8) : Text :=
  Text.joinLineBreaks (Utf8.decodeLossy bytes)

/-- The watcher with a change of its host. -/
def onHost (w : Watch) (f : Host → Host) : Watch :=
  { w with desk := { w.desk with host := f w.desk.host } }

/-- The watched document with a new text. -/
def renewed (w : Watch) (bytes : List UInt8) : Document :=
  Document.ofBytes w.path (some w.buffer.document.language) bytes

/-- The watcher after a new document was taken over, which is an edit of the session. -/
def accept (w : Watch) (document : Document) : Watch :=
  let buffer : Buffer := ⟨w.buffer.id + 1, document⟩
  let w' := w.replace buffer
  { w' with
    desk := ((Session.edit buffer (Diff.edits w.buffer.document.text document.text)).run w'.desk).2 }

theorem step_reloaded (w : Watch) : w.step .reloaded =
    match w.desk.host.files.read w.path with
    | .error _ => w.onHost (·.warn .documentUnreadable)
    | .ok bytes =>
      if textOf bytes = w.buffer.document.text then w else w.accept (w.renewed bytes) := by
  have hget : (get : WatchWork Watch).run w = (.ok w, w) := rfl
  unfold step perform reload
  simp only [run_bind, hget, Document.open?]
  cases hread : w.desk.host.files.read w.path with
  | error e => rfl
  | ok bytes =>
    simp only [Except.map]
    by_cases htext : textOf bytes = w.buffer.document.text
    · rw [if_pos htext, if_pos]
      · rfl
      · exact List.isEmpty_iff.mpr (Diff.edits_eq_nil_iff.mpr htext.symm)
    · rw [if_neg htext, if_neg]
      · rfl
      · exact fun hempty => htext (Diff.edits_eq_nil_iff.mp (List.isEmpty_iff.mp hempty)).symm

/-- A reload leaves the text of the file in the document, and changes nothing if it is the same. -/
theorem text_reloaded (w : Watch) :
    match w.desk.host.files.read w.path with
    | .error _ => w.step .reloaded = w.onHost (·.warn .documentUnreadable)
    | .ok bytes => (w.step .reloaded).buffer.document.text = textOf bytes ∧
        (w.buffer.document.text = textOf bytes → w.step .reloaded = w) := by
  rw [step_reloaded]
  cases hread : w.desk.host.files.read w.path with
  | error cause => rfl
  | ok bytes =>
    dsimp only
    by_cases htext : textOf bytes = w.buffer.document.text
    · rw [if_pos htext]
      exact ⟨htext.symm, fun _ => rfl⟩
    · rw [if_neg htext]
      exact ⟨rfl, fun hsame => absurd hsame.symm htext⟩

theorem step_fired (w : Watch) (i : Nat) : w.step (.fired i) =
    match w.desk.session.timers.firing? i with
    | some .reminder => { w with desk := (Session.remind.run w.desk).2 }
    | some .reload => w.step .reloaded
    | none => w := by
  have hget : (get : WatchWork Watch).run w = (.ok w, w) := rfl
  unfold step perform fire
  simp only [run_bind, hget]
  cases w.desk.session.timers.firing? i with
  | none => rfl
  | some p =>
    cases p with
    | reminder => exact snd_run_bind_pure (onDesk Session.remind) (fun _ => none) w
    | reload => rfl

/-! ## A new document -/

/-- An active document is replaced by the new one, and the session is renewed. -/
theorem session_accept_of_active (h : w.desk.session.active = some w.buffer) (document : Document) :
    let buffer : Buffer := ⟨w.buffer.id + 1, document⟩
    let edits := Diff.edits w.buffer.document.text document.text
    (w.accept document).desk.session = { w.desk.session.armReminder with
      active := some buffer
      detector := (w.desk.session.detector.edited document edits).1 }.refresh document := by
  have hactive : w.desk.session.isActive w.buffer := by simp [Session.isActive, h]
  dsimp only
  unfold accept
  dsimp only
  rw [Session.run_edit]
  unfold replace onSession
  dsimp only
  rw [if_pos hactive]
  unfold Session.Event.effect
  dsimp only
  rw [if_pos (by simp [Session.isActive, Session.armReminder])]
  rfl

/-- Without an active document the edit only puts the reminder off and may be checked for imports. -/
theorem session_accept_of_none (h : w.desk.session.active = none) (document : Document) :
    let edits := Diff.edits w.buffer.document.text document.text
    (w.accept document).desk.session = { w.desk.session.armReminder with
      detector := (w.desk.session.detector.edited document edits).1 } := by
  dsimp only
  unfold accept
  dsimp only
  rw [Session.run_edit]
  unfold replace onSession
  dsimp only
  rw [if_neg (by simp [Session.isActive, h])]
  unfold Session.Event.effect
  dsimp only
  rw [if_neg (by simp [Session.isActive, Session.armReminder, h])]

theorem host_accept (w : Watch) (document : Document) :
    (w.accept document).desk.host =
      if (w.desk.session.detector.edited document
          (Diff.edits w.buffer.document.text document.text)).2 then
        ((w.desk.session.notifier.inform Detector.newImportMessage none).run w.desk.host).2
      else w.desk.host := by
  unfold accept
  dsimp only
  rw [Session.run_edit]
  unfold replace onSession
  dsimp only
  split <;> rfl

end Kudos.Watch
