import Mathlib
import Kudos.Proofs.Identity.Deeds
import Kudos.Proofs.Session.Step

/-!
# A message of thanks

What saying thanks does, step by step: the user id and the counter are looked up, the record is
handed over, the user is offered a longer note, the counter is advanced, and the survey is offered if
it is due. Every step keeps a session `Ready`: its state file can be stored and holds a counter that
agrees with the session.
-/

namespace Kudos

namespace Identity

variable {i : Identity} {h : Host} {fields : List (Units × Json)}

/-- A file in which a user id is found holds an object. -/
theorem Holds.keeps (hholds : i.Holds h fields) (hid : storedId? fields ≠ none) : i.Keeps h fields := by
  have hne : fields ≠ [] := by
    rintro rfl
    exact hid rfl
  have hcontent := hholds.content
  unfold Identity.content at hcontent
  split at hcontent
  · exact absurd (Except.ok.inj hcontent).symm hne
  · next bytes hread =>
    split at hcontent
    · cases hcontent
    · next text hdecode =>
      split at hcontent
      · exact absurd (Except.ok.inj hcontent).symm hne
      · cases hcontent
      · next v hjson =>
        cases v with
        | object found =>
          obtain rfl : found = fields := Except.ok.inj hcontent
          exact ⟨bytes, text, hread, hdecode, hjson⟩
        | _ => exact absurd (Except.ok.inj hcontent).symm hne

theorem get?_fieldsReread (fields : List (Units × Json)) (key : Units) :
    Fields.get? (Json.fieldsReread fields) key = (Fields.get? fields key).map Json.reread := by
  unfold Fields.get?
  rw [Json.fieldsReread_eq_map, List.find?_map, Option.map_map, Option.map_map]
  rfl

end Identity

namespace Session

open Identity (FirstCounter counterKey idKey)

variable {i : Identity} {sink : Sink} {stored : Option Json} {d d' : Desk} {doc : Document}
  {line : Int} {text : Text}

/-! ## Questions -/

/-- A message without brackets is put to the user, who answers unless the input ends. A fixed answer needs
no input. -/
theorem run_offer {message : Text} (hmessage : '[' ∉ message) (n : Notifier) (action : Text) (h : Host) :
    ∃ r h', (n.offer message action).run h = (r, h') ∧ h'.files = h.files ∧
      (r = .error .inputEnded ∧ n.fixed? = none ∨ ∃ b, r = .ok b ∧ ∀ a ∈ n.fixed?, a = b) := by
  have fixed : ∀ {answer : Bool}, ∀ a ∈ some answer, a = answer := by
    rintro answer a ⟨⟩
    rfl
  obtain ⟨shown, hshown⟩ := Notifier.exists_print?_marked hmessage h.styles
  unfold Notifier.offer
  cases n with
  | recording answer => exact ⟨.ok answer, _, rfl, rfl, .inr ⟨answer, rfl, fixed⟩⟩
  | console fixed =>
    dsimp only
    rw [run_bind, Notifier.run_print, hshown]
    cases fixed with
    | some answer => exact ⟨.ok answer, _, rfl, rfl, .inr ⟨answer, rfl, fixed⟩⟩
    | none =>
      cases hask : Notifier.askLines action (h.print shown).input with
      | mk answer rest =>
        have hrun : ∀ (f : Host → Action Bool), (get >>= f).run (h.print shown) =
            (f (h.print shown)).run (h.print shown) := fun _ => rfl
        dsimp only
        rw [hrun, hask]
        cases answer with
        | none => exact ⟨.error .inputEnded, _, rfl, rfl, .inl ⟨rfl, rfl⟩⟩
        | some b => exact ⟨.ok b, _, rfl, rfl, .inr ⟨b, rfl, by rintro a ⟨⟩⟩⟩

theorem bracket_not_mem_thanksSent : '[' ∉ Message.thanksSent := by
  decide +kernel

theorem bracket_not_mem_survey : '[' ∉ Message.survey := by
  decide +kernel

/-! ## The user id and the counter -/

/-- A stored counter that is no negative one. -/
def Countable (stored : Option Json) : Prop :=
  ∀ v, stored = some v → ∃ n : Int, 0 ≤ n ∧ v = .int n

theorem Countable.map_reread (h : Countable stored) : stored.map Json.reread = stored := by
  cases stored with
  | none => rfl
  | some v =>
    obtain ⟨n, -, rfl⟩ := h v rfl
    rfl

/-- Whether a session is as it should be between two events: the state file can be stored, the file is
there once the user is known, and the stored counter is the first one until the session has its own. -/
structure Ready (i : Identity) (sink : Sink) (stored : Option Json) (d : Desk) : Prop where
  identity_eq : d.session.identity = i
  sink_eq : d.session.sink = sink
  countable : Countable stored
  file : ∃ fields, i.Holds d.host fields ∧
    (d.session.counter = none → Fields.get? fields counterKey = stored) ∧
    (d.session.user ≠ none → i.Keeps d.host fields)
  counter : ∀ c, d.session.counter = some c → 0 ≤ c.value ∧ Identity.Short c.value

theorem nonneg_of_firstCounter {c : Counter} (hstored : Countable stored) (h : FirstCounter stored c) :
    0 ≤ c.value := by
  cases h with
  | stored hne =>
    obtain ⟨n, hn, heq⟩ := hstored _ rfl
    cases heq
    exact hn
  | storedTrue =>
    obtain ⟨n, hn, heq⟩ := hstored _ rfl
    cases heq
  | fresh _ _ hlow _ => exact hlow

/-- Whether the user is known to the session or to the state file. -/
def KnowsUser (i : Identity) (d : Desk) : Prop :=
  d.session.user ≠ none ∨ ∃ fields, i.Holds d.host fields ∧ Identity.storedId? fields ≠ none

/-- The deeds of looking up the user id: a user who is not known is stored and registered. -/
inductive Registers (i : Identity) (d : Desk) (id : Text) : List Deed → Prop
  | known : KnowsUser i d → Registers i d id []
  | new : Registers i d id (.stored i idKey (.ofText id) :: i.registering id d.host.now)

theorem Ready.of_files (hready : Ready i sink stored d) (hsession : d'.session = d.session)
    (hfiles : d'.host.files = d.host.files) (hlimits : d'.host.limits = d.host.limits) :
    Ready i sink stored d' := by
  obtain ⟨hidentity, hsink, hcountable, ⟨fields, hholds, hstored, hkeeps⟩, hcounter⟩ := hready
  rw [← hsession] at hidentity hsink hstored hkeeps hcounter
  exact ⟨hidentity, hsink, hcountable, ⟨fields, hholds.congr hfiles hlimits, hstored,
    fun huser => (hkeeps huser).congr hfiles hlimits⟩, hcounter⟩

theorem run_userId (hapart : i.Apart) (hready : Ready i sink stored d) :
    ∃ id d' ds, userId.run d = (.ok id, d') ∧ d'.session = { d.session with user := some id } ∧
      Does ds d.host d'.host ∧ Registers i d id ds ∧ Ready i sink stored d' := by
  obtain ⟨rfl, hsink, hcountable, ⟨fields, hholds, hstored, hkeeps⟩, hcounter⟩ := hready
  unfold userId
  rw [run_bind, run_session]
  dsimp only
  cases huser : d.session.user with
  | some id =>
    have hsame : d.session = { d.session with user := some id } :=
      congrArg (fun u => { d.session with user := u }) huser
    exact ⟨id, d, [], rfl, hsame, .idle (.refl _), .known (.inl (by simp [huser])), rfl, hsink, hcountable,
      ⟨fields, hholds, hstored, hkeeps⟩, hcounter⟩
  | none =>
    obtain ⟨id, h', hrun, hspec⟩ := Identity.userId_spec hholds hapart
    dsimp only
    rw [run_bind, run_onHost, hrun]
    refine ⟨id, ⟨{ d.session with user := some id }, h'⟩, ?_⟩
    cases hid : Identity.storedId? fields with
    | some known =>
      rw [hid] at hspec
      obtain ⟨rfl, hidle⟩ := hspec
      have hfile := hholds.congr hidle.files_eq hidle.limits_eq
      have hknown : Identity.storedId? fields ≠ none := by simp [hid]
      exact ⟨[], rfl, rfl, .idle hidle, .known (.inr ⟨fields, hholds, hknown⟩), rfl, hsink, hcountable,
        ⟨fields, hfile, hstored, fun _ => hfile.keeps hknown⟩, hcounter⟩
    | none =>
      rw [hid] at hspec
      obtain ⟨-, -, hdoes, hkeeps'⟩ := hspec
      refine ⟨_, rfl, rfl, hdoes, .new, rfl, hsink, hcountable,
        ⟨_, hkeeps'.holds, fun hnone => ?_, fun _ => hkeeps'⟩, hcounter⟩
      rw [Identity.get?_fieldsReread, Fields.get?_set_of_ne (by decide), hstored hnone,
        hcountable.map_reread]

theorem run_surveyCounter (hready : Ready i sink stored d) :
    ∃ c d', surveyCounter.run d = (.ok c, d') ∧ d'.session = { d.session with counter := some c } ∧
      d.host.Idle d'.host ∧
      (d.session.counter = some c ∨ d.session.counter = none ∧ FirstCounter stored c) ∧
      Ready i sink stored d' := by
  obtain ⟨rfl, hsink, hcountable, ⟨fields, hholds, hstored, hkeeps⟩, hcounter⟩ := hready
  unfold surveyCounter
  rw [run_bind, run_session]
  dsimp only
  cases hc : d.session.counter with
  | some c =>
    have hsame : d.session = { d.session with counter := some c } :=
      congrArg (fun u => { d.session with counter := u }) hc
    exact ⟨c, d, rfl, hsame, .refl _, .inl rfl, rfl, hsink, hcountable, ⟨fields, hholds, hstored, hkeeps⟩,
      hcounter⟩
  | none =>
    obtain ⟨c, h', hrun, hidle, hfirst⟩ := Identity.loadCounter_spec hholds.content
    have hshort := hfirst.short hholds.content
    rw [hstored hc] at hfirst
    dsimp only
    rw [run_bind, run_onHost, hrun]
    refine ⟨c, ⟨{ d.session with counter := some c }, h'⟩, rfl, rfl, hidle, .inr ⟨rfl, hfirst⟩, rfl, hsink,
      hcountable, ⟨fields, hholds.congr hidle.files_eq hidle.limits_eq, fun hnone => (by cases hnone),
      fun huser => (hkeeps huser).congr hidle.files_eq hidle.limits_eq⟩, ?_⟩
    rintro _ ⟨⟩
    exact ⟨nonneg_of_firstCounter hcountable hfirst, hshort⟩

theorem run_get (d : Desk) : (get : Work Desk).run d = (.ok d, d) := rfl

theorem run_modify (f : Host → Host) (h : Host) : (modify f : Action Unit).run h = (.ok (), f h) := rfl

/-- A record that is handed over leaves the session ready. -/
theorem Ready.submitInBackground {id : Text} (hspares : sink.Spares i.path) (hready : Ready i sink stored d)
    (huser : d.session.user = some id) (collection : Text) (record : Record) :
    Ready i sink stored { d with host := sink.submitInBackground collection record d.host } := by
  obtain ⟨hidentity, hsink, hcountable, ⟨fields, hholds, hstored, hkeeps⟩, hcounter⟩ := hready
  have hkeeps' := Identity.keeps_submitInBackground hspares (hkeeps (by simp [huser])) collection record
  exact ⟨hidentity, hsink, hcountable, ⟨fields, hkeeps'.holds, hstored, fun _ => hkeeps'⟩, hcounter⟩

/-! ## Offers -/

/-- A link to a form changes nothing once the user is known. There is one if thanks were said for a line
that is not empty. -/
theorem run_formLink {id : Text} (huser : d.session.user = some id) (base question text : Text) :
    ∃ link, (formLink base question).run d = (.ok link, d) ∧
      (d.session.activeLine = some text → text ≠ [] →
        link = some (Form.url base id question text)) := by
  have hid : userId.run d = (.ok id, d) := by
    unfold userId
    rw [run_bind, run_session]
    simp only [huser]
    rfl
  unfold formLink
  rw [run_bind, run_session]
  dsimp only
  cases hactive : d.session.activeLine with
  | none => exact ⟨none, rfl, by rintro ⟨⟩⟩
  | some line =>
    cases line with
    | nil =>
      refine ⟨none, rfl, ?_⟩
      rintro ⟨⟩ hne
      exact absurd rfl hne
    | cons c line =>
      dsimp only
      rw [run_bind, hid]
      refine ⟨_, rfl, ?_⟩
      rintro ⟨⟩ -
      rfl

/-- An offer is a question, and nothing else unless the input ends. If the answer is fixed to yes, it
leads to the link. -/
theorem run_offerLink {id message : Text} (huser : d.session.user = some id) (hmessage : '[' ∉ message)
    (action base question text : Text) :
    ∃ r d', (offerLink message action (formLink base question)).run d = (r, d') ∧
      d'.session = d.session ∧ d'.host.files = d.host.files ∧
      Does [.asked d.session.notifier message action] d.host d'.host ∧
      (r = .error .inputEnded ∧ d.session.notifier.fixed? = none ∨ ∃ link, r = .ok link ∧
        (d.session.notifier.fixed? = some true → d.session.activeLine = some text → text ≠ [] →
          link = some (Form.url base id question text))) := by
  obtain ⟨r, host, hrun, hfiles, hr⟩ := run_offer hmessage d.session.notifier action d.host
  have hdoes : Does [.asked d.session.notifier message action] d.host host := by
    have hdeed := Does.deed (.asked d.session.notifier message action) d.host
    have happly : Deed.apply d.host (.asked d.session.notifier message action) = host :=
      congrArg Prod.snd hrun
    rwa [happly] at hdeed
  have hoffer : (offerLink message action (formLink base question)).run d =
      match (d.session.notifier.offer message action).run d.host with
      | (.ok b, host) =>
        (if b then formLink base question else pure none : Work (Option Text)).run { d with host }
      | (.error e, host) => (.error e, { d with host }) := by
    unfold offerLink
    rw [run_bind, run_session]
    dsimp only
    rw [run_bind, run_onHost]
    rcases (d.session.notifier.offer message action).run d.host with ⟨e | b, host⟩ <;> rfl
  rw [hrun] at hoffer
  rcases hr with ⟨rfl, hnone⟩ | ⟨b, rfl, hfixed⟩
  · exact ⟨_, { d with host }, hoffer, rfl, hfiles, hdoes, .inl ⟨rfl, hnone⟩⟩
  · cases b with
    | false =>
      refine ⟨.ok none, { d with host }, hoffer, rfl, hfiles, hdoes, .inr ⟨none, rfl, fun hyes => ?_⟩⟩
      cases hfixed true hyes
    | true =>
      obtain ⟨link, hlink, hform⟩ := run_formLink (d := { d with host }) huser base question text
      exact ⟨.ok link, { d with host }, hoffer.trans hlink, rfl, hfiles, hdoes,
        .inr ⟨link, rfl, fun _ => hform⟩⟩

/-! ## The whole message -/

/-- How the counter goes on: down by one, or from zero to a new start with the survey. -/
structure Counts (n : Int) (o : Outcome) : Prop where
  offered_iff : o.surveyOffered ↔ n = 0
  reset : n = 0 → 1 ≤ o.counter ∧ o.counter ≤ 4
  down : n ≠ 0 → o.counter = n - 1

/-- All that a message of thanks for a line does when it comes to its end, with the record and the link
that it answers. -/
structure Completes (i : Identity) (sink : Sink) (line : Int) (text : Text) (d : Desk) (o : Outcome)
    (h' : Host) : Prop where
  stored : ∃ fields, i.Keeps h' fields ∧ Fields.get? fields counterKey = some (.int o.counter)
  deeds : ∃ id looked, Registers i d id looked ∧ o.record = thanksRecord line text d.host.now id ∧
    Does (looked ++ [.handed sink responsesCollection o.record,
        .asked d.session.notifier Message.thanksSent Message.sayMore,
        .stored i counterKey (.int o.counter)] ++
      if o.surveyOffered then [.asked d.session.notifier Message.survey Message.fillOutSurvey] else [])
      d.host h' ∧
    (d.session.notifier.fixed? = some true → text ≠ [] →
      o.sayMoreLink = some (Form.url Form.sayMore id Form.sayMoreQuestion text))

/-- Advancing the counter leaves the session ready with the new counter, which is the stored one. -/
theorem run_advance {n : Counter} (hready : Ready i sink stored d) (hn : d.session.counter = some n) :
    ∃ m h', (i.advanceCounter n.value).run d.host = (.ok (m, decide (n.value = 0)), h') ∧
      (∀ o : Outcome, o.counter = m → o.surveyOffered = decide (n.value = 0) → Counts n.value o) ∧
      Does [.stored i counterKey (.int m)] d.host h' ∧
      (∃ fields, i.Keeps h' fields ∧ Fields.get? fields counterKey = some (.int m)) ∧
      Ready i sink stored ⟨{ d.session with counter := some ⟨m, false⟩ }, h'⟩ := by
  obtain ⟨fields, hholds, -, -⟩ := hready.file
  obtain ⟨hnonneg, hshort⟩ := hready.counter n hn
  obtain ⟨m, h', hrun, hreset, hdown, hdoes, -, hkeeps⟩ :=
    Identity.advanceCounter_spec hnonneg hshort hholds
  have hstored : Fields.get? (Json.fieldsReread (Fields.set counterKey (.int m) fields)) counterKey =
      some (.int m) := by
    rw [Identity.get?_fieldsReread, Fields.get?_set_self]
    rfl
  refine ⟨m, h', hrun, ?_, hdoes, ⟨_, hkeeps, hstored⟩, hready.identity_eq, hready.sink_eq,
    hready.countable, ⟨_, hkeeps.holds, fun hnone => (by cases hnone), fun _ => hkeeps⟩, ?_⟩
  · rintro o rfl ho
    exact ⟨by rw [ho]; exact decide_eq_true_iff, hreset, hdown⟩
  · rintro _ ⟨⟩
    refine ⟨?_, Identity.short_of_counted hnonneg (fun _ => hshort) hreset hdown⟩
    show 0 ≤ m
    by_cases hzero : n.value = 0
    · have := hreset hzero
      omega
    · have := hdown hzero
      omega

/-- The user and the counter are looked up one after the other. -/
theorem run_lookUp {α : Type} (hapart : i.Apart) (hready : Ready i sink stored d)
    (f : Text → Counter → Work α) :
    ∃ id n d' looked,
      (userId >>= fun id => surveyCounter >>= fun n => f id n).run d = (f id n).run d' ∧
      d'.session = { d.session with user := some id, counter := some n } ∧
      Does looked d.host d'.host ∧ Registers i d id looked ∧
      (d.session.counter = some n ∨ d.session.counter = none ∧ FirstCounter stored n) ∧
      Ready i sink stored d' := by
  obtain ⟨id, d₁, looked, huser, hsession₁, hdoes, hregisters, hready₁⟩ := run_userId hapart hready
  obtain ⟨n, d₂, hcounter, hsession₂, hidle, hn, hready₂⟩ := run_surveyCounter hready₁
  rw [hsession₁] at hn
  have hlooked := Does.append hdoes (.idle hidle)
  rw [List.append_nil] at hlooked
  refine ⟨id, n, d₂, looked, ?_, by rw [hsession₂, hsession₁], hlooked, hregisters, hn, hready₂⟩
  rw [run_bind, huser]
  dsimp only
  rw [run_bind, hcounter]

/-- The record is handed over once the user and the counter are looked up. -/
theorem run_handOver {α : Type} (hapart : i.Apart) (hspares : sink.Spares i.path)
    (hready : Ready i sink stored d) (line : Int) (text : Text) (f : Text → Counter → Desk → Work α) :
    ∃ id n d₁ d' looked,
      (do
        Work.change ({ · with activeLine := some text })
        let user ← userId
        let counter ← surveyCounter
        let now ← get
        let s ← Work.session
        Work.onHost (modify (s.sink.submitInBackground responsesCollection
          (thanksRecord line text now.host.now user)))
        f user counter now : Work α).run d = (f id n d₁).run d' ∧
      d₁.host.now = d.host.now ∧
      d'.session = { d.session with activeLine := some text, user := some id, counter := some n } ∧
      Does (looked ++ [.handed sink responsesCollection (thanksRecord line text d.host.now id)])
        d.host d'.host ∧
      Registers i d id looked ∧
      (d.session.counter = some n ∨ d.session.counter = none ∧ FirstCounter stored n) ∧
      Ready i sink stored d' := by
  set d₀ : Desk := { d with session := { d.session with activeLine := some text } } with hd₀
  have hready₀ : Ready i sink stored d₀ := by
    obtain ⟨hidentity, hsink, hcountable, hfile, hcounter⟩ := hready
    exact ⟨hidentity, hsink, hcountable, hfile, hcounter⟩
  obtain ⟨id, n, d₁, looked, hlookUp, hsession, hdoes, hregisters, hn, hready₁⟩ :=
    run_lookUp hapart hready₀ _
  have hregisters : Registers i d id looked := by
    cases hregisters with
    | known hknown => exact .known hknown
    | new => exact .new
  have hnow : d₁.host.now = d.host.now := hdoes.now_eq
  have huser : d₁.session.user = some id := by rw [hsession]
  set record := thanksRecord line text d.host.now id
  have hhanded := Does.deed (.handed sink responsesCollection record) d₁.host
  refine ⟨id, n, d₁, { d₁ with host := sink.submitInBackground responsesCollection record d₁.host }, looked,
    ?_, hnow, hsession, .append hdoes hhanded, hregisters, hn,
    hready₁.submitInBackground hspares huser responsesCollection record⟩
  rw [run_bind, run_change, ← hd₀]
  dsimp only
  rw [hlookUp, run_bind, run_get]
  dsimp only
  rw [run_bind, run_session]
  dsimp only
  rw [run_bind, run_onHost, run_modify, hready₁.sink_eq, hnow]

/-- The survey is offered if it is due, before anything else goes on. -/
theorem run_surveyOffer {α : Type} {id : Text} (huser : d.session.user = some id) (due : Bool)
    (f : Option Text → Work α) :
    ∃ (r : Except Fault (Option Text)) (d' : Desk),
      (if due then offerLink Message.survey Message.fillOutSurvey surveyLink >>= f
        else pure none >>= f : Work α).run d =
        (match r with
        | .ok link => (f link).run d'
        | .error e => (.error e, d')) ∧
      d'.session = d.session ∧ d'.host.files = d.host.files ∧
      Does (if due then [.asked d.session.notifier Message.survey Message.fillOutSurvey] else [])
        d.host d'.host ∧
      (r = .error .inputEnded ∧ d.session.notifier.fixed? = none ∨ ∃ link, r = .ok link) := by
  cases due with
  | false => exact ⟨.ok none, d, rfl, rfl, rfl, .idle (.refl _), .inr ⟨none, rfl⟩⟩
  | true =>
    obtain ⟨r, d', hrun, hsession, hfiles, hdoes, hr⟩ := run_offerLink huser bracket_not_mem_survey
      Message.fillOutSurvey Form.survey Form.surveyQuestion []
    have hrun : (offerLink Message.survey Message.fillOutSurvey surveyLink).run d = (r, d') := hrun
    refine ⟨r, d', ?_, hsession, hfiles, hdoes, hr.imp_right fun ⟨link, hlink, _⟩ => ⟨link, hlink⟩⟩
    rw [if_pos rfl, run_bind, hrun]
    cases r <;> rfl

/-- A message of thanks for a line of its document comes to its end, unless the input ends before. -/
theorem of_run_sayThanks {r : Except Fault Outcome} (hapart : i.Apart) (hspares : sink.Spares i.path)
    (hready : Ready i sink stored d) (hline : doc.lineAt (line - 1) = .ok text)
    (hrun : (sayThanks doc line).run d = (r, d'))
    (hanswered : r = .error .inputEnded → d.session.notifier.fixed? ≠ none) :
    ∃ o n, r = .ok o ∧ Ready i sink stored d' ∧ d'.session.counter = some ⟨o.counter, false⟩ ∧
      (d.session.counter = some n ∨ d.session.counter = none ∧ FirstCounter stored n) ∧
      Counts n.value o ∧ Completes i sink line text d o d'.host := by
  unfold sayThanks at hrun
  rw [hline] at hrun
  dsimp only at hrun
  obtain ⟨id, n, d₁, d₃, looked, hhandOver, hnow, hsession₃, hdoes₃, hregisters, hn, hready₃⟩ :=
    run_handOver hapart hspares hready line text _
  rw [hhandOver, hnow] at hrun
  have huser₃ : d₃.session.user = some id := by rw [hsession₃]
  have hnotifier₃ : d₃.session.notifier = d.session.notifier := by rw [hsession₃]
  -- the longer note is offered
  obtain ⟨r₄, d₄, hoffer, hsession₄, hfiles₄, hdoes₄, hr₄⟩ := run_offerLink huser₃
    bracket_not_mem_thanksSent Message.sayMore Form.sayMore Form.sayMoreQuestion text
  have hready₄ := hready₃.of_files hsession₄ hfiles₄ hdoes₄.limits_eq
  have hoffer : (offerLink Message.thanksSent Message.sayMore sayMoreLink).run d₃ = (r₄, d₄) := hoffer
  rw [run_bind, hoffer] at hrun
  rw [hnotifier₃] at hdoes₄ hr₄
  rcases hr₄ with ⟨rfl, hnone⟩ | ⟨link, rfl, hlink⟩
  · exact absurd hnone (hanswered (congrArg Prod.fst hrun).symm)
  dsimp only at hrun
  -- the counter is advanced
  have hcounter₄ : d₄.session.counter = some n := by rw [hsession₄, hsession₃]
  obtain ⟨m, h₅, hadvance, hcounts, hdoes₅, hstored₅, hready₆⟩ := run_advance hready₄ hcounter₄
  rw [run_bind, run_session] at hrun
  dsimp only at hrun
  rw [run_bind, run_onHost, hready₄.identity_eq, hadvance] at hrun
  dsimp only at hrun
  rw [run_bind, run_change] at hrun
  dsimp only at hrun
  set d₆ : Desk := ⟨{ d₄.session with counter := some ⟨m, false⟩ }, h₅⟩ with hd₆
  -- the survey is offered if it is due
  have huser₆ : d₆.session.user = some id := by
    rw [hd₆]
    show d₄.session.user = some id
    rw [hsession₄, huser₃]
  have hnotifier₆ : d₆.session.notifier = d.session.notifier := by
    rw [hd₆]
    show d₄.session.notifier = d.session.notifier
    rw [hsession₄, hnotifier₃]
  obtain ⟨r₇, d₇, hsurvey, hsession₇, hfiles₇, hdoes₇, hr₇⟩ :=
    run_surveyOffer huser₆ (decide (n.value = 0)) _
  rw [hnotifier₆] at hdoes₇ hr₇
  rw [hsurvey] at hrun
  rcases hr₇ with ⟨rfl, hnone⟩ | ⟨survey, rfl⟩
  · exact absurd hnone (hanswered (congrArg Prod.fst hrun).symm)
  obtain ⟨rfl, rfl⟩ := Prod.mk.inj hrun
  obtain ⟨fields, hkeeps₅, hcounted⟩ := hstored₅
  refine ⟨_, n, rfl, hready₆.of_files hsession₇ hfiles₇ hdoes₇.limits_eq, by rw [hsession₇], hn,
    hcounts _ rfl rfl, ⟨fields, hkeeps₅.congr hfiles₇ hdoes₇.limits_eq, hcounted⟩, id, looked, hregisters, rfl,
    ?_, fun hyes hne => hlink hyes ?_ hne⟩
  · have hdoes := Does.append hdoes₃ (.append hdoes₄ (.append hdoes₅ hdoes₇))
    simpa using hdoes
  · rw [hsession₃]

end Session

end Kudos
