import Mathlib
import Kudos.Proofs.Session.Step

/-!
# Sessions whose records are lost

Records are one-way messages, so a session goes on in the same way whether they are delivered or not
(`run_blind_to_losses`). Two runs of the same events are compared: on the one host every record is
delivered, on the other one some are lost. The hosts then differ in the records that are missing and in
the warnings of them (`Host.Loses`), the sessions in their sinks alone (`Desk.Loses`). An action that is
blind to such differences (`Blind`) has the same result for both and keeps them as they are; actions that
are put together from blind ones are blind, and so is every event.
-/

namespace Kudos

/-! ## Actions from related states -/

section

variable {σ α β : Type} {R : σ → σ → Prop} {a a' : ActionOn σ α} {f f' : α → ActionOn σ β} {s s' : σ}

/-- Whether two actions, each from a state of its own, have the same result and lead to related
states. -/
structure Agree (R : σ → σ → Prop) (a : ActionOn σ α) (s : σ) (a' : ActionOn σ α) (s' : σ) : Prop where
  /-- The results are the same. -/
  result : (a'.run s').1 = (a.run s).1
  /-- The states behind the actions are related. -/
  states : R (a.run s).2 (a'.run s').2

/-- Whether an action does the same from related states. -/
def Blind (R : σ → σ → Prop) (a : ActionOn σ α) : Prop :=
  ∀ s s', R s s' → Agree R a s a s'

theorem Agree.bind (ha : Agree R a s a' s') (hf : ∀ x s s', R s s' → Agree R (f x) s (f' x) s') :
    Agree R (a >>= f) s (a' >>= f') s' := by
  obtain ⟨result, states⟩ := ha
  rcases hrun : a.run s with ⟨r, t⟩
  rcases hrun' : a'.run s' with ⟨r', t'⟩
  rw [hrun, hrun'] at result states
  obtain rfl : r' = r := result
  have agree : ∀ x, Agree R (f x) t (f' x) t' := fun x => hf x t t' states
  cases r' with
  | error e =>
    constructor
    · rw [run_bind, run_bind, hrun, hrun']
    · rw [run_bind, run_bind, hrun, hrun']
      exact states
  | ok x =>
    constructor
    · rw [run_bind, run_bind, hrun, hrun']
      exact (agree x).result
    · rw [run_bind, run_bind, hrun, hrun']
      exact (agree x).states

theorem blind_bind (ha : Blind R a) (hf : ∀ x, Blind R (f x)) : Blind R (a >>= f) :=
  fun s s' h => (ha s s' h).bind hf

theorem blind_pure (x : α) : Blind R (pure x : ActionOn σ α) :=
  fun _ _ h => ⟨rfl, h⟩

theorem blind_throw (e : Fault) : Blind R (throw e : ActionOn σ α) :=
  fun _ _ h => ⟨rfl, h⟩

theorem blind_modify {g : σ → σ} (hg : ∀ s s', R s s' → R (g s) (g s')) :
    Blind R (modify g : ActionOn σ Unit) :=
  fun s s' h => ⟨rfl, hg s s' h⟩

theorem blind_modifyGet {g : σ → α × σ} (hg : ∀ s s', R s s' → (g s').1 = (g s).1 ∧ R (g s).2 (g s').2) :
    Blind R (modifyGet g : ActionOn σ α) :=
  fun s s' h => ⟨congrArg Except.ok (hg s s' h).1, (hg s s' h).2⟩

/-- After a look at the states the actions go on from them. -/
theorem agree_get_bind {g g' : σ → ActionOn σ β} (h : Agree R (g s) s (g' s') s') :
    Agree R (get >>= g) s (get >>= g') s' :=
  ⟨h.result, h.states⟩

end

/-! ## Hosts that lose records -/

/-- Whether a warning tells of a lost record. -/
def Warning.isLoss : Warning → Bool
  | recordLost _ _ => true
  | _ => false

namespace Host

variable {h h' : Host}

/-- Whether a host is another one but for lost records: some deliveries are missing, and there may be
warnings that tell of them. -/
def Loses (h h' : Host) : Prop :=
  ∃ deliveries warnings, h' = { h with deliveries, warnings } ∧ deliveries.Sublist h.deliveries ∧
    h.warnings.Sublist warnings ∧
    warnings.filter (fun w => !w.isLoss) = h.warnings.filter fun w => !w.isLoss

theorem Loses.refl (h : Host) : h.Loses h :=
  ⟨h.deliveries, h.warnings, rfl, .refl _, .refl _, rfl⟩

/-- What depends on neither deliveries nor warnings is the same on both. -/
theorem Loses.eq {α : Type} (hloses : h.Loses h') (f : Host → α)
    (hf : ∀ h deliveries warnings, f { h with deliveries, warnings } = f h := by exact fun _ _ _ => rfl) :
    f h' = f h := by
  obtain ⟨deliveries, warnings, rfl, -⟩ := hloses
  exact hf h deliveries warnings

/-- A change that neither reads nor writes deliveries and warnings keeps the difference. -/
theorem Loses.of_apart (hloses : h.Loses h') {g : Host → Host}
    (hg : ∀ h deliveries warnings, g { h with deliveries, warnings } = { g h with deliveries, warnings }) :
    (g h).Loses (g h') := by
  obtain ⟨deliveries, warnings, rfl, hdeliveries, hwarnings, hothers⟩ := hloses
  have same : g h = { g h with deliveries := h.deliveries, warnings := h.warnings } :=
    hg h h.deliveries h.warnings
  refine ⟨deliveries, warnings, hg h deliveries warnings, ?_, ?_, ?_⟩
  · rw [same]
    exact hdeliveries
  · rw [same]
    exact hwarnings
  · rw [same]
    exact hothers

theorem blind_modify_apart {g : Host → Host}
    (hg : ∀ h deliveries warnings, g { h with deliveries, warnings } = { g h with deliveries, warnings }) :
    Blind Loses (modify g : Action Unit) :=
  blind_modify fun _ _ hloses => hloses.of_apart hg

theorem Loses.warn (hloses : h.Loses h') (w : Warning) : (h.warn w).Loses (h'.warn w) := by
  obtain ⟨deliveries, warnings, rfl, hdeliveries, hwarnings, hothers⟩ := hloses
  refine ⟨deliveries, w :: warnings, rfl, hdeliveries, hwarnings.cons_cons w, ?_⟩
  show (w :: warnings).filter _ = (w :: h.warnings).filter _
  rw [List.filter_cons, List.filter_cons, hothers]

/-- A record that is handed over on both hosts is delivered on the first one; on the other one it may
be lost. -/
theorem Loses.submit (hloses : h.Loses h') (fails : Nat → Option Failure) (collection : Text)
    (record : Record) :
    ((Sink.memory fun _ => none).submitInBackground collection record h).Loses
      ((Sink.memory fails).submitInBackground collection record h') := by
  obtain ⟨deliveries, warnings, rfl, hdeliveries, hwarnings, hothers⟩ := hloses
  have missing : deliveries.Sublist (⟨collection, record⟩ :: h.deliveries) := hdeliveries.cons _
  unfold Sink.submitInBackground Sink.submitSafely Sink.submit
  dsimp only
  cases fails h.attempts with
  | none => exact ⟨_, warnings, rfl, hdeliveries.cons_cons _, hwarnings, hothers⟩
  | some cause =>
    dsimp only
    split
    · exact ⟨deliveries, .recordLost collection cause :: warnings, rfl, missing, hwarnings.cons _, hothers⟩
    · exact ⟨deliveries, warnings, rfl, missing, hwarnings, hothers⟩

end Host

open Host (Loses blind_modify_apart)

/-! ## Messages and the identity -/

namespace Notifier

theorem blind_print (t : Text) : Blind Loses (print t) := by
  intro h h' hloses
  refine agree_get_bind ?_
  rw [hloses.eq Host.styles]
  split
  · exact blind_throw _ h h' hloses
  · exact blind_modify_apart (fun _ _ _ => rfl) h h' hloses

theorem blind_inform (n : Notifier) (message : Text) (dismiss : Option Number) :
    Blind Loses (n.inform message dismiss) := by
  have note : Blind Loses (dismissNote dismiss) := by
    unfold dismissNote
    split
    · exact blind_pure _
    · split
      · exact blind_pure _
      · split
        · exact blind_throw _
        · exact blind_pure _
  cases n with
  | recording answer => exact blind_modify_apart fun _ _ _ => rfl
  | console answer => exact blind_bind note fun _ => blind_print _

theorem blind_offer (n : Notifier) (message action : Text) : Blind Loses (n.offer message action) := by
  cases n with
  | recording answer =>
    exact blind_bind (blind_modify_apart fun _ _ _ => rfl) fun _ => blind_pure answer
  | console fixed =>
    refine blind_bind (blind_print _) fun _ => ?_
    cases fixed with
    | some answer => exact blind_pure answer
    | none =>
      -- The lines that are left are the same on both hosts.
      intro h h' hloses
      refine agree_get_bind ?_
      rw [hloses.eq Host.input]
      refine blind_bind (blind_modify_apart fun _ _ _ => rfl) (fun _ => ?_) h h' hloses
      split
      · exact blind_pure _
      · exact blind_throw _

end Notifier

namespace Identity

variable {fails : Nat → Option Failure}

theorem blind_load (i : Identity) : Blind Loses i.load := by
  intro h h' hloses
  have unreadable : Agree Loses
      (set (h.warn .stateUnreadable) >>= fun _ => pure []) h
      (set (h'.warn .stateUnreadable) >>= fun _ => pure [] : Action (List (Units × Json))) h' :=
    ⟨rfl, hloses.warn _⟩
  refine agree_get_bind ?_
  rw [hloses.eq Host.files, hloses.eq Host.limits]
  split
  · exact blind_pure _ h h' hloses
  split
  · exact unreadable
  split
  · exact blind_throw _ h h' hloses
  split
  · exact unreadable
  · exact blind_throw _ h h' hloses
  · exact blind_pure _ h h' hloses

theorem blind_store (i : Identity) (key : Units) (fields : List (Units × Json)) :
    Blind Loses (i.store key fields) := by
  intro h h' hloses
  have changed : ∀ files, Loses { h with files } { h' with files } := fun files =>
    hloses.of_apart (g := fun h => { h with files }) fun _ _ _ => rfl
  refine agree_get_bind ?_
  rw [hloses.eq Host.files, hloses.eq Host.limits]
  split
  · exact ⟨rfl, hloses.warn _⟩
  split
  · exact ⟨rfl, changed _⟩
  split
  · exact ⟨rfl, changed _⟩
  · exact ⟨rfl, (changed _).warn _⟩

theorem blind_update (i : Identity) (key : Units) (value : Json) : Blind Loses (i.update key value) :=
  blind_bind i.blind_load fun _ => i.blind_store key _

/-- The registration of a new user may be lost; the id is the same. -/
theorem agree_userId (path : Path) {h h' : Host} (hloses : h.Loses h') :
    Agree Loses (userId ⟨path, some (.memory fun _ => none)⟩) h (userId ⟨path, some (.memory fails)⟩) h' := by
  have register : ∀ h h' : Host, h.Loses h' →
      Agree Loses (userId.register ⟨path, some (.memory fun _ => none)⟩) h
        (userId.register ⟨path, some (.memory fails)⟩) h' := by
    intro h h' hloses
    refine Agree.bind (blind_modifyGet (fun h h' hloses => ?_) h h' hloses) fun id h h' hloses => ?_
    · exact ⟨hloses.eq fun h => h.freshId.1,
        hloses.of_apart (g := fun h => h.freshId.2) fun _ _ _ => rfl⟩
    refine Agree.bind (blind_update _ idKey (.ofText id) h h' hloses) fun _ h h' hloses => ?_
    refine Agree.bind ⟨rfl, ?_⟩ fun _ => blind_pure id
    show Loses (Sink.submitInBackground _ _ _ h)
      (Sink.submitInBackground _ _ [("userId".toList, .text id), ("timestamp".toList, .time h'.now)] h')
    rw [hloses.eq Host.now]
    exact hloses.submit fails usersCollection _
  refine Agree.bind (blind_load ⟨path, none⟩ h h' hloses) fun fields h h' hloses => ?_
  split
  · split
    · exact blind_pure _ h h' hloses
    · exact register h h' hloses
  · exact register h h' hloses

theorem blind_draw (low high : Int) : Blind Loses (modifyGet (·.draw low high) : Action Int) := by
  refine blind_modifyGet fun h h' hloses => ⟨hloses.eq fun h => (h.draw low high).1, ?_⟩
  exact hloses.of_apart (g := fun h => (h.draw low high).2) fun _ _ _ => rfl

theorem blind_loadCounter (i : Identity) : Blind Loses i.loadCounter := by
  have fresh : Blind Loses loadCounter.fresh := blind_bind (blind_draw 0 4) fun _ => blind_pure _
  refine blind_bind i.blind_load fun fields => ?_
  split
  · split
    · exact blind_pure _
    · exact fresh
  · exact blind_pure _
  · exact fresh

theorem blind_advanceCounter (i : Identity) (n : Int) : Blind Loses (i.advanceCounter n) := by
  unfold advanceCounter
  split
  · refine blind_bind (blind_draw 1 4) fun fresh => ?_
    exact blind_bind (i.blind_update _ _) fun _ => blind_pure _
  split
  · exact blind_bind (i.blind_update _ _) fun _ => blind_pure _
  · exact blind_pure _

end Identity

/-! ## Sessions with another sink -/

/-- The session with another sink, also for the registration of its user. -/
def Session.withSink (s : Session) (sink : Sink) : Session :=
  { s with sink, identity := { s.identity with sink := some sink } }

/-- Whether a desk is another one but for lost records: the sink of the first one delivers every record,
that of the second one fails as told. -/
structure Desk.Loses (fails : Nat → Option Failure) (d d' : Desk) : Prop where
  /-- The first session delivers every record. -/
  keeps : d.session.withSink (.memory fun _ => none) = d.session
  /-- The second session has the other sink. -/
  session : d'.session = d.session.withSink (.memory fails)
  /-- The hosts differ in lost records. -/
  host : d.host.Loses d'.host

namespace Session

open Work

variable {α : Type} {fails : Nat → Option Failure} {d d' : Desk}

theorem blind_change {f : Session → Session}
    (hf : ∀ s sink, f (s.withSink sink) = (f s).withSink sink) :
    Blind (Desk.Loses fails) (change f) := by
  intro d d' hloses
  have session : f d'.session = (f d.session).withSink (.memory fails) := by
    rw [hloses.session, hf]
  have keeps : (f d.session).withSink (.memory fun _ => none) = f d.session := by
    rw [← hf, hloses.keeps]
  exact ⟨rfl, keeps, session, hloses.host⟩

theorem agree_onHost {a a' : Action α} (hloses : Desk.Loses fails d d')
    (h : Agree Host.Loses a d.host a' d'.host) :
    Agree (Desk.Loses fails) (onHost a) d (onHost a') d' :=
  ⟨h.result, hloses.keeps, hloses.session, h.states⟩

theorem blind_onHost {a : Action α} (h : Blind Host.Loses a) : Blind (Desk.Loses fails) (onHost a) :=
  fun _ _ hloses => agree_onHost hloses (h _ _ hloses.host)

theorem agree_session_bind {R : Desk → Desk → Prop} {g g' : Session → Work α}
    (h : Agree R (g d.session) d (g' d'.session) d') : Agree R (session >>= g) d (session >>= g') d' :=
  ⟨h.result, h.states⟩

/-- After a look at something of the session but its sink the actions go on alike. -/
theorem blind_session_bind {g : Session → Work α} (hg : ∀ s sink, g (s.withSink sink) = g s)
    (h : ∀ s, Blind (Desk.Loses fails) (g s)) : Blind (Desk.Loses fails) (session >>= g) := by
  intro d d' hloses
  refine agree_session_bind ?_
  rw [hloses.session, hg]
  exact h d.session d d' hloses

theorem blind_userId : Blind (Desk.Loses fails) userId := by
  intro d d' hloses
  refine agree_session_bind ?_
  have user : d'.session.user = d.session.user := by
    rw [hloses.session]
    rfl
  rw [user]
  cases d.session.user with
  | some id => exact blind_pure id d d' hloses
  | none =>
    refine Agree.bind (agree_onHost hloses ?_) fun id => ?_
    · rw [hloses.session, ← hloses.keeps]
      exact Identity.agree_userId d.session.identity.path hloses.host
    · exact blind_bind (blind_change fun _ _ => rfl) fun _ => blind_pure id

theorem blind_surveyCounter : Blind (Desk.Loses fails) surveyCounter := by
  refine blind_session_bind (fun _ _ => rfl) fun s => ?_
  cases s.counter with
  | some c => exact blind_pure c
  | none =>
    refine blind_bind (blind_onHost (Identity.blind_loadCounter _)) fun c => ?_
    exact blind_bind (blind_change fun _ _ => rfl) fun _ => blind_pure c

theorem blind_formLink (base question : Text) : Blind (Desk.Loses fails) (formLink base question) := by
  refine blind_session_bind (fun _ _ => rfl) fun s => ?_
  split
  · exact blind_pure none
  · exact blind_pure none
  · exact blind_bind blind_userId fun _ => blind_pure _

theorem blind_offerLink (message action : Text) {link : Work (Option Text)}
    (hlink : Blind (Desk.Loses fails) link) :
    Blind (Desk.Loses fails) (offerLink message action link) := by
  refine blind_session_bind (fun _ _ => rfl) fun s => ?_
  refine blind_bind (blind_onHost (s.notifier.blind_offer _ _)) fun taken => ?_
  cases taken with
  | true => exact hlink
  | false => exact blind_pure none

/-- A message of thanks may be lost, and so may the registration of its user. -/
theorem blind_sayThanks (doc : Document) (line : Int) :
    Blind (Desk.Loses fails) (sayThanks doc line) := by
  unfold sayThanks
  split
  · exact blind_throw _
  refine blind_bind (blind_change fun _ _ => rfl) fun _ => ?_
  refine blind_bind blind_userId fun user => blind_bind blind_surveyCounter fun counter => ?_
  intro d d' hloses
  refine agree_get_bind (agree_session_bind ?_)
  rw [hloses.host.eq Host.now]
  refine Agree.bind (agree_onHost hloses ⟨rfl, ?_⟩) fun _ => ?_
  · rw [hloses.session, ← hloses.keeps]
    exact hloses.host.submit fails responsesCollection _
  refine blind_bind (blind_offerLink _ _ (blind_formLink _ _)) fun sayMoreLink => ?_
  refine blind_session_bind (fun _ _ => rfl) fun s => ?_
  refine blind_bind (blind_onHost (Identity.blind_advanceCounter _ _)) fun result => ?_
  refine blind_bind (blind_change fun _ _ => rfl) fun _ => ?_
  cases result.2 with
  | true => exact blind_bind (blind_offerLink _ _ (blind_formLink _ _)) fun _ => blind_pure _
  | false => exact blind_bind (blind_pure none) fun _ => blind_pure _

theorem blind_edit (b : Buffer) (edits : List Edit) : Blind (Desk.Loses fails) (edit b edits) := by
  refine blind_bind (blind_change fun _ _ => rfl) fun _ => ?_
  refine blind_session_bind (fun _ _ => rfl) fun s => ?_
  have analysed : Blind (Desk.Loses fails) (do
      change ({ · with detector := (s.detector.edited b.document edits).1 })
      if s.isActive b then
        change (·.refresh b.document)
        return some (← session).result
      else return none) := by
    refine blind_bind (blind_change fun _ _ => rfl) fun _ => ?_
    split
    · refine blind_bind (blind_change fun _ _ => rfl) fun _ => ?_
      exact blind_session_bind (fun _ _ => rfl) fun _ => blind_pure _
    · exact blind_pure none
  dsimp only
  split
  · exact blind_bind (blind_onHost (s.notifier.blind_inform _ _)) fun _ => analysed
  · exact analysed

theorem blind_remind : Blind (Desk.Loses fails) remind := by
  refine blind_session_bind (fun _ _ => rfl) fun s => ?_
  split
  · exact blind_pure ()
  split
  · exact blind_onHost (s.notifier.blind_inform _ _)
  · exact blind_pure ()

theorem withSink_checkKeyword (s : Session) (sink : Sink) :
    (s.withSink sink).checkKeyword = s.checkKeyword.withSink sink := by
  have active : (s.withSink sink).active = s.active := rfl
  unfold checkKeyword
  rw [active]
  split
  · rfl
  · split <;> rfl

theorem withSink_switchTo (b : Buffer) (s : Session) (sink : Sink) :
    (s.withSink sink).switchTo (some b) = (s.switchTo (some b)).withSink sink :=
  withSink_checkKeyword (refresh { s with active := some b } b.document) sink

/-- Every event does the same, whether records are delivered or lost. -/
theorem blind_perform (e : Event) : Blind (Desk.Loses fails) (perform e) := by
  have shown : Blind (Desk.Loses fails) (do return Reply.analysis (← session).result) :=
    blind_session_bind (fun _ _ => rfl) fun _ => blind_pure _
  cases e with
  | opened b => exact blind_bind (blind_change (withSink_switchTo b)) fun _ => shown
  | switched b =>
    cases b with
    | none => exact blind_bind (blind_change fun _ _ => rfl) fun _ => blind_pure _
    | some b => exact blind_bind (blind_change (withSink_switchTo b)) fun _ => shown
  | refreshed b => exact blind_bind (blind_change fun _ _ => rfl) fun _ => shown
  | edited b edits => exact blind_bind (blind_edit b edits) fun _ => blind_pure _
  | selected => exact blind_bind (blind_change fun _ _ => rfl) fun _ => blind_pure _
  | themed name =>
    refine blind_bind (blind_change fun _ _ => rfl) fun _ => ?_
    exact blind_session_bind (fun _ _ => rfl) fun _ => blind_pure _
  | hovered line =>
    refine blind_session_bind (fun _ _ => rfl) fun s => ?_
    split <;> exact blind_pure _
  | checked => exact blind_bind (blind_change withSink_checkKeyword) fun _ => blind_pure _
  | fired i =>
    refine blind_session_bind (fun _ _ => rfl) fun s => ?_
    split
    · exact blind_bind blind_remind fun _ => blind_pure _
    · exact blind_bind (blind_pure ()) fun _ => blind_pure _
  | thanked b line => exact blind_bind (blind_sayThanks b.document line) fun _ => blind_pure _
  | saidMore => exact blind_bind (blind_formLink _ _) fun _ => blind_pure _
  | surveyed => exact blind_bind (blind_formLink _ _) fun _ => blind_pure _
  | countAsked => exact blind_bind blind_surveyCounter fun _ => blind_pure _
  | userAsked => exact blind_bind blind_userId fun _ => blind_pure _
  | closed => exact blind_bind (blind_change fun _ _ => rfl) fun _ => blind_pure _

/-! ## Runs -/

/-- What the events answer one after the other; a failed one answers why. -/
def replies (d : Desk) : List Event → List (Except Fault Reply)
  | [] => []
  | e :: es => ((perform e).run d).1 :: replies (d.step e) es

/-- A run keeps two desks together, with the same answers. -/
theorem loses_run (hloses : Desk.Loses fails d d') (es : List Event) :
    replies d' es = replies d es ∧ Desk.Loses fails (d.run es) (d'.run es) := by
  induction es generalizing d d' with
  | nil => exact ⟨rfl, hloses⟩
  | cons e es ih =>
    obtain ⟨result, states⟩ := blind_perform e d d' hloses
    obtain ⟨results, run⟩ := ih states
    exact ⟨congrArg₂ List.cons result results, run⟩

/-- Whether records are delivered or lost has no influence on a session: the events have the same
answers and failures, and after any number of them the sessions are the same but for their sinks, and the
hosts are the same but for the missing records and the warnings of them. -/
theorem run_blind_to_losses (settings : Settings) (notifier : Notifier) (path : Path) (h : Host)
    (fails : Nat → Option Failure) (es : List Event) :
    let sound : Sink := .memory fun _ => none
    let leaky : Sink := .memory fails
    let kept : Desk := ⟨start settings notifier sound ⟨path, some sound⟩, h⟩
    let lost : Desk := ⟨start settings notifier leaky ⟨path, some leaky⟩, h⟩
    replies lost es = replies kept es ∧
      ∀ n, (lost.run (es.take n)).session = (kept.run (es.take n)).session.withSink leaky ∧
        (kept.run (es.take n)).host.Loses (lost.run (es.take n)).host := by
  intro sound leaky kept lost
  have hloses : Desk.Loses fails kept lost := ⟨rfl, rfl, .refl h⟩
  refine ⟨(loses_run hloses es).1, fun n => ?_⟩
  obtain ⟨-, run⟩ := loses_run hloses (es.take n)
  exact ⟨run.session, run.host⟩

end Session

end Kudos
