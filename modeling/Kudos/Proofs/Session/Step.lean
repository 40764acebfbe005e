import Mathlib
import Kudos.Session
import Kudos.Proofs.Notifier

/-!
# One event of a session

What an event can do to a session is said once: `Event.effect` is the session that an event leads to,
apart from what only saying thanks reads and writes, and `Event.messages` bounds what the user is told
meanwhile (`step_spec`). Everything that holds of all runs is derived from these.
-/

namespace Kudos

/-- The desk after an event, which may have failed on the way. -/
def Desk.step (d : Desk) (e : Session.Event) : Desk :=
  ((Session.perform e).run d).2

/-- The desk after some events. -/
def Desk.run (d : Desk) (es : List Session.Event) : Desk :=
  es.foldl Desk.step d

@[simp] theorem Desk.run_nil (d : Desk) : d.run [] = d := rfl

@[simp] theorem Desk.run_cons (d : Desk) (e : Session.Event) (es : List Session.Event) :
    d.run (e :: es) = (d.step e).run es := rfl

namespace Session

variable {ok : Text → Prop} {d : Desk}

/-! ## What an event does -/

/-- The session without what only saying thanks depends on. -/
def core (s : Session) : Session :=
  { s with activeLine := none, user := none, counter := none }

/-- What does not depend on those parts is the same for sessions with one core. -/
theorem eq_of_core {α : Type} (f : Session → α) {s s' : Session} (h : s'.core = s.core)
    (hf : ∀ s : Session, f s.core = f s := by exact fun _ => rfl) : f s' = f s := by
  rw [← hf s', h, hf s]

/-- What an event does to a session, apart from what only saying thanks depends on. -/
def Event.effect (s : Session) : Event → Session
  | .opened b => s.switchTo (some b)
  | .switched b => s.switchTo b
  | .refreshed b => s.refresh b.document
  | .edited b edits =>
    let s := { s.armReminder with detector := (s.detector.edited b.document edits).1 }
    if s.isActive b then s.refresh b.document else s
  | .selected => s.armReminder
  | .themed name => s.changeTheme name
  | .checked => s.checkKeyword
  | .closed => s.stopReminder
  | .hovered _ | .fired _ | .thanked _ _ | .saidMore | .surveyed | .countAsked | .userAsked => s

/-- The messages that the user may be told at an event. -/
def Event.messages (s : Session) : Event → List Text
  | .edited b edits =>
    if (s.detector.edited b.document edits).2 then [Detector.newImportMessage] else []
  | .fired i =>
    if s.timers.firing? i = some .reminder ∧ s.active.any (·.document.mentionsImports) then
      [Message.reminder]
    else []
  | .thanked _ _ => [Message.thanksSent, Message.survey]
  | _ => []

/-! ## Saying thanks -/

/-- Whether one desk follows from another by telling messages of a kind, with the core of the session
as it was. -/
def Talks (ok : Text → Prop) (d d' : Desk) : Prop :=
  d'.session.core = d.session.core ∧ d.session.notifier.Tells ok d.host d'.host

instance : IsPreorder Desk (Talks ok) where
  refl _ := ⟨rfl, .refl _⟩
  trans d d' d'' := by
    intro ⟨hcore, htells⟩ ⟨hcore', htells'⟩
    rw [eq_of_core Session.notifier hcore] at htells'
    exact ⟨hcore'.trans hcore, htells.trans htells'⟩

theorem talks_change {f : Session → Session} (h : (f d.session).core = d.session.core) :
    Talks ok d ((Work.change f).run d).2 :=
  ⟨h, .refl _⟩

theorem talks_onHost {α : Type} {a : Action α}
    (h : d.session.notifier.Tells ok d.host (a.run d.host).2) :
    Talks ok d ((Work.onHost a).run d).2 :=
  ⟨rfl, h⟩

theorem leads_onHost {α : Type} {a : Action α} (h : Leads Host.SameToUser a) :
    Leads (Talks ok) (Work.onHost a) :=
  fun d => talks_onHost (.silent (.refl _) (h d.host))

theorem leads_session_bind {β : Type} {R : Desk → Desk → Prop} {g : Session → Work β}
    (h : ∀ d : Desk, R d ((g d.session).run d).2) : Leads R (Work.session >>= g) :=
  fun d => h d

theorem leads_userId : Leads (Talks ok) userId := by
  refine leads_session_bind fun d => ?_
  cases d.session.user with
  | some id => exact leads_pure id d
  | none =>
    refine leads_bind (leads_onHost (Identity.leads_userId _)) (fun id => ?_) d
    exact leads_bind (fun d => talks_change rfl) fun _ => leads_pure id

theorem leads_surveyCounter : Leads (Talks ok) surveyCounter := by
  refine leads_session_bind fun d => ?_
  cases d.session.counter with
  | some c => exact leads_pure c d
  | none =>
    refine leads_bind (leads_onHost (Identity.leads_loadCounter _)) (fun c => ?_) d
    exact leads_bind (fun d => talks_change rfl) fun _ => leads_pure c

theorem leads_formLink (base question : Text) : Leads (Talks ok) (formLink base question) := by
  refine leads_session_bind fun d => ?_
  split
  · exact leads_pure none d
  · exact leads_pure none d
  · exact leads_bind leads_userId (fun _ => leads_pure _) d

theorem leads_offerLink {message : Text} (action : Text) {link : Work (Option Text)}
    (hok : ok message) (hlink : Leads (Talks ok) link) :
    Leads (Talks ok) (offerLink message action link) := by
  refine leads_session_bind fun d => rel_bind ?_ fun taken => ?_
  · exact talks_onHost (.offer message action (.refl _) hok)
  · cases taken with
    | true => exact hlink
    | false => exact leads_pure none

/-- A message of thanks changes nothing but what saying thanks depends on, and the user is told of
the thanks and the survey only. -/
theorem leads_sayThanks (doc : Document) (line : Int) (hsent : ok Message.thanksSent)
    (hsurvey : ok Message.survey) : Leads (Talks ok) (sayThanks doc line) := by
  unfold sayThanks
  split
  · exact leads_throw _
  refine leads_bind (fun d => talks_change rfl) fun _ => ?_
  refine leads_bind leads_userId fun user => leads_bind leads_surveyCounter fun counter => ?_
  refine leads_get_bind fun d => leads_session_bind (fun d' => ?_) d
  refine leads_bind (leads_onHost fun h => Sink.sameToUser_submitInBackground ..) (fun _ => ?_) d'
  refine leads_bind (leads_offerLink _ hsent (leads_formLink _ _)) fun sayMoreLink => ?_
  refine leads_session_bind fun d => ?_
  refine leads_bind (leads_onHost (Identity.leads_advanceCounter _ _)) (fun result => ?_) d
  refine leads_bind (fun d => talks_change rfl) fun _ => ?_
  cases result.2 with
  | true => exact leads_bind (leads_offerLink _ hsurvey (leads_formLink _ _)) fun _ => leads_pure _
  | false => exact leads_bind (leads_pure none) fun _ => leads_pure _

/-! ## Edits and the reminder -/

/-- The message for a new import never fails, and leaves the files as they are. -/
theorem run_inform_newImport (n : Notifier) (h : Host) :
    ∃ h', (n.inform Detector.newImportMessage none).run h = (.ok (), h') ∧ h'.files = h.files := by
  cases n with
  | recording answer => exact ⟨_, rfl, rfl⟩
  | console answer =>
    have hmessage : '[' ∉ Detector.newImportMessage := by decide +kernel
    obtain ⟨t, ht⟩ := Notifier.exists_print?_marked hmessage h.styles
    refine ⟨h.print t, ?_, rfl⟩
    have note : (Notifier.dismissNote none).run h = (.ok [], h) := rfl
    unfold Notifier.inform
    dsimp only
    rw [run_bind, note]
    dsimp only
    rw [List.append_nil, Notifier.run_print, ht]

theorem run_change (f : Session → Session) (d : Desk) :
    (Work.change f).run d = (.ok (), { d with session := f d.session }) := rfl

theorem run_session (d : Desk) : Work.session.run d = (.ok d.session, d) := rfl

theorem run_onHost {α : Type} (a : Action α) (d : Desk) :
    (Work.onHost a).run d = ((a.run d.host).1, { d with host := (a.run d.host).2 }) := rfl

/-- The desk after an edit: the session as the event says, and one message if the detector says so. -/
theorem run_edit (b : Buffer) (edits : List Edit) (d : Desk) :
    ((edit b edits).run d).2 =
      { session := Event.effect d.session (.edited b edits)
        host :=
          if (d.session.detector.edited b.document edits).2 then
            ((d.session.notifier.inform Detector.newImportMessage none).run d.host).2
          else d.host } := by
  obtain ⟨h, hinform, -⟩ := run_inform_newImport d.session.notifier d.host
  have hinform' : (d.session.armReminder.notifier.inform Detector.newImportMessage none).run d.host =
      (.ok (), h) := hinform
  have hdetector : d.session.armReminder.detector = d.session.detector := rfl
  have heffect : Event.effect d.session (.edited b edits) =
      let s := { d.session.armReminder with
        detector := (d.session.detector.edited b.document edits).1 }
      if d.session.armReminder.isActive b then s.refresh b.document else s := rfl
  rw [heffect]
  unfold edit
  simp only [run_bind, run_session, run_change, hdetector]
  by_cases hmore : (d.session.detector.edited b.document edits).2
  · rw [if_pos hmore, if_pos hmore]
    simp only [run_bind, run_onHost, run_change, hinform, hinform']
    cases hactive : d.session.armReminder.isActive b <;> rfl
  · rw [if_neg hmore, if_neg hmore]
    simp only [run_bind, run_change]
    cases hactive : d.session.armReminder.isActive b <;> rfl

/-- The desk after the reminder is shown, or not. -/
theorem run_remind (d : Desk) :
    (remind.run d).2 =
      if d.session.active.any (·.document.mentionsImports) then
        { d with
          host := ((d.session.notifier.inform Message.reminder (some d.session.settings.dismiss)).run
            d.host).2 }
      else d := by
  unfold remind
  simp only [run_bind, run_session]
  cases hactive : d.session.active with
  | none => rfl
  | some b => cases hmention : b.document.mentionsImports <;> simp [hmention] <;> rfl

theorem session_remind (d : Desk) : (remind.run d).2.session = d.session := by
  rw [run_remind]
  split <;> rfl

theorem step_edited (d : Desk) (b : Buffer) (edits : List Edit) :
    d.step (.edited b edits) = ((edit b edits).run d).2 :=
  snd_run_bind_pure _ _ d

theorem step_fired (d : Desk) (i : Nat) :
    d.step (.fired i) =
      if d.session.timers.firing? i = some .reminder then (remind.run d).2 else d := by
  unfold Desk.step perform
  simp only [run_bind, run_session]
  split
  · next hfiring => rw [if_pos hfiring, snd_run_bind_pure]
  · next hfiring => rw [if_neg hfiring]; rfl

/-! ## The whole step -/

/-- What an event does to the session and what the user is told meanwhile. -/
theorem step_spec (d : Desk) (e : Event) :
    (d.step e).session.core = (Event.effect d.session e).core ∧
      d.session.notifier.Tells (· ∈ Event.messages d.session e) d.host (d.step e).host := by
  cases e with
  | opened b => exact ⟨rfl, .refl _⟩
  | switched b => cases b <;> exact ⟨rfl, .refl _⟩
  | refreshed b => exact ⟨rfl, .refl _⟩
  | edited b edits =>
    rw [step_edited, run_edit]
    refine ⟨rfl, ?_⟩
    dsimp only [Event.messages]
    split
    · exact .inform _ _ (.refl _) (by simp)
    · exact .refl _
  | selected => exact ⟨rfl, .refl _⟩
  | themed name => exact ⟨rfl, .refl _⟩
  | hovered line =>
    have still : d.step (.hovered line) = d := by
      unfold Desk.step perform
      simp only [run_bind, run_session]
      split <;> rfl
    rw [still]
    exact ⟨rfl, .refl _⟩
  | checked => exact ⟨rfl, .refl _⟩
  | fired i =>
    rw [step_fired]
    dsimp only [Event.messages]
    split
    · next hfiring =>
      rw [run_remind]
      split
      · next hactive =>
        refine ⟨rfl, ?_⟩
        rw [if_pos ⟨hfiring, hactive⟩]
        exact .inform _ _ (.refl _) (by simp)
      · exact ⟨rfl, .refl _⟩
    · exact ⟨rfl, .refl _⟩
  | thanked b line =>
    exact leads_bind (leads_sayThanks _ _ (by simp [Event.messages]) (by simp [Event.messages]))
      (fun _ => leads_pure _) d
  | saidMore => exact leads_bind (leads_formLink _ _) (fun _ => leads_pure _) d
  | surveyed => exact leads_bind (leads_formLink _ _) (fun _ => leads_pure _) d
  | countAsked => exact leads_bind leads_surveyCounter (fun _ => leads_pure _) d
  | userAsked => exact leads_bind leads_userId (fun _ => leads_pure _) d
  | closed => exact ⟨rfl, .refl _⟩

/-- A check for keywords changes the reminder and nothing else. -/
theorem checkKeyword_eq (s : Session) :
    ∃ reminder timers, s.checkKeyword = { s with reminder, timers } := by
  unfold checkKeyword
  split
  · exact ⟨_, _, rfl⟩
  · split <;> exact ⟨_, _, rfl⟩

theorem active_checkKeyword (s : Session) : s.checkKeyword.active = s.active := by
  obtain ⟨_, _, h⟩ := s.checkKeyword_eq
  rw [h]

theorem detector_checkKeyword (s : Session) : s.checkKeyword.detector = s.detector := by
  obtain ⟨_, _, h⟩ := s.checkKeyword_eq
  rw [h]

/-- No event changes the settings or how the user is reached. -/
theorem settings_effect (s : Session) (e : Event) :
    (Event.effect s e).settings = s.settings ∧ (Event.effect s e).notifier = s.notifier := by
  have checked : ∀ s : Session, s.checkKeyword.settings = s.settings ∧
      s.checkKeyword.notifier = s.notifier := by
    intro s
    obtain ⟨_, _, h⟩ := s.checkKeyword_eq
    rw [h]
    exact ⟨rfl, rfl⟩
  cases e with
  | opened b => exact checked _
  | switched b =>
    cases b with
    | none => exact ⟨rfl, rfl⟩
    | some b => exact checked _
  | edited b edits =>
    unfold Event.effect
    dsimp only
    split <;> exact ⟨rfl, rfl⟩
  | checked => exact checked s
  | _ => exact ⟨rfl, rfl⟩

theorem settings_run (d : Desk) (es : List Event) :
    (d.run es).session.settings = d.session.settings ∧
      (d.run es).session.notifier = d.session.notifier := by
  induction es generalizing d with
  | nil => exact ⟨rfl, rfl⟩
  | cons e es ih =>
    have hcore := (step_spec d e).1
    obtain ⟨hsettings, hnotifier⟩ := settings_effect d.session e
    rw [Desk.run_cons, (ih _).1, (ih _).2, eq_of_core settings hcore, eq_of_core notifier hcore]
    exact ⟨hsettings, hnotifier⟩

end Session

end Kudos
