import Mathlib
import Kudos.Proofs.Session.Step

/-!
# How often a new import is announced

Every edit that inserts a newline makes the detector count the import statements of the edited document,
whichever document is active (`Event.counted?`). In a run the user is told of a new import as often as
one of these counts is greater than the one before, at the edit where it is, and nothing else touches the
detector.
-/

namespace Kudos

/-! ## Messages in order -/

/-- The message of a notice. -/
def Notice.message : Notice → Text
  | shown message _ => message
  | asked message _ => message

namespace Notifier

variable {n : Notifier} {ok : Text → Prop} {ms : List Text} {h h' : Host}

/-- Whether between two states of a host the user is told these messages, in this order, and no more. -/
inductive Told (n : Notifier) : List Text → Host → Host → Prop where
  | silent {h h' : Host} : h.SameToUser h' → n.Told [] h h'
  | inform (message : Text) (dismiss : Option Number) (h : Host) :
      n.Told [message] h ((n.inform message dismiss).run h).2
  | offer (message action : Text) (h : Host) : n.Told [message] h ((n.offer message action).run h).2
  | append {ms ms' : List Text} {h h' h'' : Host} :
      n.Told ms h h' → n.Told ms' h' h'' → n.Told (ms ++ ms') h h''

/-- What the user is told has an order. -/
theorem Tells.exists_told (htells : n.Tells ok h h') : ∃ ms, n.Told ms h h' ∧ ∀ m ∈ ms, ok m := by
  induction htells with
  | refl => exact ⟨[], .silent ⟨rfl, rfl⟩, by simp⟩
  | silent _ hsame ih =>
    obtain ⟨ms, htold, hok⟩ := ih
    exact ⟨ms ++ [], htold.append (.silent hsame), by simpa using hok⟩
  | inform message dismiss _ hm ih =>
    obtain ⟨ms, htold, hok⟩ := ih
    refine ⟨ms ++ [message], htold.append (.inform message dismiss _), ?_⟩
    simpa [or_imp, forall_and] using ⟨hok, hm⟩
  | offer message action _ hm ih =>
    obtain ⟨ms, htold, hok⟩ := ih
    refine ⟨ms ++ [message], htold.append (.offer message action _), ?_⟩
    simpa [or_imp, forall_and] using ⟨hok, hm⟩

/-- A notifier that records has the messages that it was to say, the last one first. -/
theorem Told.notices_eq {answer : Bool} (htold : (recording answer).Told ms h h') :
    h'.notices.map Notice.message = ms.reverse ++ h.notices.map Notice.message := by
  induction htold with
  | silent hsame => rw [hsame.1, List.reverse_nil, List.nil_append]
  | inform message dismiss h => rfl
  | offer message action h => rfl
  | append _ _ ih ih' => rw [ih', ih, List.reverse_append, List.append_assoc]

end Notifier

/-! ## Counts -/

/-- How many of some counts are greater than the one before. -/
def rises (first : Nat) (counts : List Nat) : Nat :=
  ((first :: counts).zip counts).countP fun (before, after) => before < after

theorem rises_cons (first c : Nat) (counts : List Nat) :
    rises first (c :: counts) = (if first < c then 1 else 0) + rises c counts := by
  unfold rises
  rw [List.zip_cons_cons, List.countP_cons, Nat.add_comm]
  simp

namespace Session

variable {d : Desk} {e : Event} {es : List Event} {c : Nat}

/-- The number of import statements that the detector counts at an event, if it does. -/
def Event.counted? : Event → Option Nat
  | .edited b edits =>
    if edits.any Edit.insertsNewline then some (Detector.statements b.document).length else none
  | _ => none

/-! ## One event -/

theorem edited_eq (m : Detector) (b : Buffer) (edits : List Edit) :
    m.edited b.document edits =
      match (Event.edited b edits).counted? with
      | some c => (⟨c⟩, decide (m.count < c))
      | none => (m, false) := by
  unfold Detector.edited Event.counted?
  dsimp only
  split <;> rfl

theorem detector_effect_edited (s : Session) (b : Buffer) (edits : List Edit) :
    (Event.effect s (.edited b edits)).detector = (s.detector.edited b.document edits).1 := by
  unfold Event.effect
  dsimp only
  split <;> rfl

/-- After a check the detector has the new count, and the message comes exactly if it is greater. -/
theorem step_of_counted (hcounted : e.counted? = some c) :
    (d.step e).session.detector.count = c ∧ (d.step e).host =
      if d.session.detector.count < c then
        ((d.session.notifier.inform Detector.newImportMessage none).run d.host).2
      else d.host := by
  cases e with
  | edited b edits =>
    have hedited := edited_eq d.session.detector b edits
    rw [hcounted] at hedited
    rw [step_edited, run_edit]
    dsimp only
    rw [detector_effect_edited, hedited]
    exact ⟨rfl, by simp only [decide_eq_true_eq]⟩
  | _ => cases hcounted

theorem detector_effect_of_not_counted (s : Session) (hcounted : e.counted? = none) :
    (Event.effect s e).detector = s.detector := by
  cases e with
  | opened b => exact detector_checkKeyword _
  | switched b =>
    cases b with
    | none => rfl
    | some b => exact detector_checkKeyword _
  | edited b edits =>
    rw [detector_effect_edited, edited_eq, hcounted]
  | checked => exact detector_checkKeyword _
  | _ => rfl

theorem ne_newImport_of_not_counted {s : Session} {m : Text} (hcounted : e.counted? = none)
    (hm : m ∈ Event.messages s e) : m ≠ Detector.newImportMessage := by
  rintro rfl
  cases e with
  | edited b edits =>
    have hedited := edited_eq s.detector b edits
    rw [hcounted] at hedited
    unfold Event.messages at hm
    dsimp only at hm
    rw [hedited] at hm
    exact absurd hm List.not_mem_nil
  | fired i =>
    have hreminder : Detector.newImportMessage ≠ Message.reminder := mt String.toList_inj.mp (by decide)
    unfold Event.messages at hm
    dsimp only at hm
    split at hm
    · exact hreminder (List.mem_singleton.mp hm)
    · exact absurd hm List.not_mem_nil
  | thanked b line =>
    have hsent : Detector.newImportMessage ≠ Message.thanksSent := mt String.toList_inj.mp (by decide)
    have hsurvey : Detector.newImportMessage ≠ Message.survey := mt String.toList_inj.mp (by decide)
    rcases List.mem_pair.mp hm with heq | heq
    · exact hsent heq
    · exact hsurvey heq
  | _ => exact absurd hm List.not_mem_nil

/-- Without a check the detector stays as it is, and nothing is said of new imports. -/
theorem step_of_not_counted (hcounted : e.counted? = none) :
    (d.step e).session.detector = d.session.detector ∧
      d.session.notifier.Tells (· ≠ Detector.newImportMessage) d.host (d.step e).host := by
  obtain ⟨hcore, htells⟩ := step_spec d e
  rw [eq_of_core detector hcore]
  exact ⟨detector_effect_of_not_counted _ hcounted, htells.mono fun m => ne_newImport_of_not_counted hcounted⟩

/-! ## Runs -/

/-- Counts follow one another from the first one on, each with its message if it is a rise. -/
theorem told_run (d : Desk) (es : List Event) :
    (d.run es).session.detector.count = (es.filterMap Event.counted?).getLastD d.session.detector.count ∧
      ∃ ms, d.session.notifier.Told ms d.host (d.run es).host ∧
        ms.count Detector.newImportMessage = rises d.session.detector.count (es.filterMap Event.counted?) := by
  induction es generalizing d with
  | nil => exact ⟨rfl, [], .silent ⟨rfl, rfl⟩, rfl⟩
  | cons e es ih =>
    obtain ⟨hlast, ms, htold, hcount⟩ := ih (d.step e)
    have hnotifier : (d.step e).session.notifier = d.session.notifier := (settings_run d [e]).2
    rw [hnotifier] at htold
    rw [Desk.run_cons]
    cases hcounted : e.counted? with
    | some c =>
      obtain ⟨hdetector, hhost⟩ := step_of_counted (d := d) hcounted
      rw [hdetector] at hlast hcount
      rw [List.filterMap_cons_some hcounted, List.getLastD_cons, rises_cons]
      refine ⟨hlast, ?_⟩
      by_cases hrise : d.session.detector.count < c
      · rw [if_pos hrise] at hhost ⊢
        have hfirst := Notifier.Told.inform (n := d.session.notifier) Detector.newImportMessage none d.host
        rw [← hhost] at hfirst
        exact ⟨_, hfirst.append htold, by rw [List.singleton_append, List.count_cons_self, hcount, Nat.add_comm]⟩
      · rw [if_neg hrise] at hhost ⊢
        rw [hhost] at htold
        exact ⟨ms, htold, by rw [hcount, Nat.zero_add]⟩
    | none =>
      obtain ⟨hdetector, htells⟩ := step_of_not_counted (d := d) hcounted
      obtain ⟨before, hbefore, hother⟩ := htells.exists_told
      rw [hdetector] at hlast hcount
      rw [List.filterMap_cons_none hcounted]
      refine ⟨hlast, before ++ ms, hbefore.append htold, ?_⟩
      have hnone : before.count Detector.newImportMessage = 0 :=
        List.count_eq_zero.mpr fun hmem => hother _ hmem rfl
      rw [List.count_append, hnone, Nat.zero_add, hcount]

/-- In every run of a session the detector has the last count. The user is told of a new import as often as
a count is greater than the one before it, where the count before the first one is zero; it is told at the
edit at which the count is taken. No other event changes the detector or tells of a new import. -/
theorem newImports_of_run (settings : Settings) (notifier : Notifier) (sink : Sink) (identity : Identity)
    (host : Host) (es : List Event) :
    let d := Desk.run ⟨start settings notifier sink identity, host⟩ es
    let counts := es.filterMap Event.counted?
    d.session.detector.count = counts.getLastD 0 ∧
      (∃ ms, notifier.Told ms host d.host ∧ ms.count Detector.newImportMessage = rises 0 counts) ∧
      (∀ answer, notifier = .recording answer →
        (d.host.notices.map Notice.message).count Detector.newImportMessage =
          (host.notices.map Notice.message).count Detector.newImportMessage + rises 0 counts) ∧
      ∀ e, match Event.counted? e with
        | some c =>
          (d.step e).session.detector.count = c ∧ (d.step e).host =
            if counts.getLastD 0 < c then ((notifier.inform Detector.newImportMessage none).run d.host).2
            else d.host
        | none =>
          (d.step e).session.detector = d.session.detector ∧
            notifier.Tells (· ≠ Detector.newImportMessage) d.host (d.step e).host := by
  intro d counts
  obtain ⟨hlast, ms, htold, hcount⟩ := told_run ⟨start settings notifier sink identity, host⟩ es
  have hdetector : d.session.detector.count = counts.getLastD 0 := hlast
  have hnotifier : d.session.notifier = notifier :=
    (settings_run ⟨start settings notifier sink identity, host⟩ es).2
  refine ⟨hdetector, ⟨ms, htold, hcount⟩, ?_, fun e => ?_⟩
  · rintro answer rfl
    have hrecorded : (Notifier.recording answer).Told ms host d.host := htold
    have hrises : ms.count Detector.newImportMessage = rises 0 counts := hcount
    rw [hrecorded.notices_eq, List.count_append, List.count_reverse, hrises, Nat.add_comm]
  · cases hcounted : e.counted? with
    | some c =>
      have hstep := step_of_counted (d := d) hcounted
      rwa [hdetector, hnotifier] at hstep
    | none =>
      have hstep := step_of_not_counted (d := d) hcounted
      rwa [hnotifier] at hstep

/-- An import that is taken out and written again is announced twice. -/
theorem newImport_announced_twice :
    let typed (t : String) : Event := .edited ⟨1, { text := t.toList, language := "python" }⟩ [⟨['\n'], 0⟩]
    let d := Desk.run ⟨start {} (.recording false) (.memory fun _ => none) ⟨⟨[], []⟩, none⟩, {}⟩
      [typed "import os\n", typed "\n", typed "import os\n"]
    d.session.detector.count = 1 ∧ (d.host.notices.map Notice.message).count Detector.newImportMessage = 2 := by
  intro typed d
  obtain ⟨hcount, -, hnotices, -⟩ := newImports_of_run {} (.recording false) (.memory fun _ => none)
    ⟨⟨[], []⟩, none⟩ {} [typed "import os\n", typed "\n", typed "import os\n"]
  have hcounts : [typed "import os\n", typed "\n", typed "import os\n"].filterMap Event.counted? = [1, 0, 1] := by
    decide +kernel
  rw [hcounts] at hcount hnotices
  exact ⟨hcount, hnotices false rfl⟩

end Session

end Kudos
