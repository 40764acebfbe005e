import Mathlib
import Kudos.Proofs.Session.Thanks

/-!
# When the survey is offered

The counter of a session counts its messages of thanks down. The survey is offered when it is at zero,
and then the counter starts anew; so the offers follow a schedule (`Schedule`) that is read off the
first counter and the counters at the offers. A line outside the document changes nothing at all.
-/

namespace Kudos

namespace Session

open Identity (FirstCounter counterKey)

variable {i : Identity} {sink : Sink} {stored : Option Json} {d d' : Desk} {n : Int}
  {o : Outcome} {os : List Outcome}

/-! ## Events that do not count -/

/-- Whether nothing that the survey depends on has changed. -/
structure SameSurvey (d d' : Desk) : Prop where
  identity_eq : d'.session.identity = d.session.identity
  sink_eq : d'.session.sink = d.session.sink
  user_eq : d'.session.user = d.session.user
  counter_eq : d'.session.counter = d.session.counter
  files_eq : d'.host.files = d.host.files
  limits_eq : d'.host.limits = d.host.limits

theorem Ready.of_same (hready : Ready i sink stored d) (hsame : SameSurvey d d') :
    Ready i sink stored d' := by
  obtain ⟨hidentity, hsink, hcountable, ⟨fields, hholds, hstored, hkeeps⟩, hcounter⟩ := hready
  obtain ⟨hidentity', hsink', huser', hcounter', hfiles', hlimits'⟩ := hsame
  rw [← hidentity'] at hidentity
  rw [← hsink'] at hsink
  rw [← huser'] at hkeeps
  rw [← hcounter'] at hstored hcounter
  exact ⟨hidentity, hsink, hcountable, ⟨fields, hholds.congr hfiles' hlimits', hstored,
    fun huser => (hkeeps huser).congr hfiles' hlimits'⟩, hcounter⟩

theorem files_inform (m : Notifier) (message : Text) (dismiss : Option Number) (h : Host) :
    ((m.inform message dismiss).run h).2.files = h.files := by
  obtain ⟨_, _, hinform⟩ := m.host_inform message dismiss h
  rw [hinform]

theorem limits_inform (m : Notifier) (message : Text) (dismiss : Option Number) (h : Host) :
    ((m.inform message dismiss).run h).2.limits = h.limits := by
  obtain ⟨_, _, hinform⟩ := m.host_inform message dismiss h
  rw [hinform]
  rfl

/-- Whether an event may look up the user id or the counter. -/
def Event.Counts : Event → Prop
  | .thanked _ _ | .saidMore | .surveyed | .countAsked | .userAsked => True
  | _ => False

theorem sameSurvey_effect (d : Desk) (e : Event) {h : Host} (hfiles : h.files = d.host.files)
    (hlimits : h.limits = d.host.limits) : SameSurvey d ⟨Event.effect d.session e, h⟩ := by
  have checked : ∀ s : Session, s.identity = d.session.identity → s.sink = d.session.sink →
      s.user = d.session.user → s.counter = d.session.counter → SameSurvey d ⟨s.checkKeyword, h⟩ := by
    intro s hidentity hsink huser hcounter
    obtain ⟨_, _, hs⟩ := s.checkKeyword_eq
    rw [hs]
    exact ⟨hidentity, hsink, huser, hcounter, hfiles, hlimits⟩
  cases e with
  | opened b => exact checked ({ d.session with active := some b }.refresh b.document) rfl rfl rfl rfl
  | switched b =>
    cases b with
    | none => exact ⟨rfl, rfl, rfl, rfl, hfiles, hlimits⟩
    | some b => exact checked ({ d.session with active := some b }.refresh b.document) rfl rfl rfl rfl
  | edited b edits =>
    unfold Event.effect
    dsimp only
    split <;> exact ⟨rfl, rfl, rfl, rfl, hfiles, hlimits⟩
  | checked => exact checked _ rfl rfl rfl rfl
  | _ => exact ⟨rfl, rfl, rfl, rfl, hfiles, hlimits⟩

theorem sameSurvey_step {e : Event} (he : ¬ e.Counts) : SameSurvey d (d.step e) := by
  cases e with
  | edited b edits =>
    rw [step_edited, run_edit]
    refine sameSurvey_effect d (.edited b edits) ?_ ?_
    · split
      · exact files_inform ..
      · rfl
    · split
      · exact limits_inform ..
      · rfl
  | fired t =>
    have same : SameSurvey d d := ⟨rfl, rfl, rfl, rfl, rfl, rfl⟩
    rw [step_fired]
    split
    · rw [run_remind]
      split
      · exact ⟨rfl, rfl, rfl, rfl, files_inform .., limits_inform ..⟩
      · exact same
    · exact same
  | hovered line =>
    have still : d.step (.hovered line) = d := by
      unfold Desk.step perform
      simp only [run_bind, run_session]
      split <;> rfl
    rw [still]
    exact ⟨rfl, rfl, rfl, rfl, rfl, rfl⟩
  | switched b =>
    cases b with
    | none => exact sameSurvey_effect d (.switched none) rfl rfl
    | some b => exact sameSurvey_effect d (.switched (some b)) rfl rfl
  | opened b => exact sameSurvey_effect d (.opened b) rfl rfl
  | refreshed b => exact sameSurvey_effect d (.refreshed b) rfl rfl
  | selected => exact sameSurvey_effect d .selected rfl rfl
  | themed name => exact sameSurvey_effect d (.themed name) rfl rfl
  | checked => exact sameSurvey_effect d .checked rfl rfl
  | closed => exact sameSurvey_effect d .closed rfl rfl
  | _ => exact absurd trivial he

/-! ## One event -/

/-- The line of a document, counted from one, is there exactly if it is in range. -/
theorem exists_lineAt_iff (doc : Document) (line : Int) :
    (∃ text, doc.lineAt (line - 1) = .ok text) ↔ 1 ≤ line ∧ line ≤ doc.lineCount := by
  unfold Document.lineAt Document.lineCount
  constructor
  · rintro ⟨text, htext⟩
    split at htext
    · cases htext
    · split at htext
      · next hsome =>
        obtain ⟨hlt, -⟩ := List.getElem?_eq_some_iff.mp hsome
        omega
      · cases htext
  · rintro ⟨hlow, hhigh⟩
    rw [if_neg (by omega), List.getElem?_eq_getElem (by omega : (line - 1).toNat < doc.lines.length)]
    exact ⟨_, rfl⟩

/-- A line outside the document stops the message before anything is done. -/
theorem run_thanked_of_outside {b : Buffer} {line : Int}
    (hline : ¬ (1 ≤ line ∧ line ≤ b.document.lineCount)) (d : Desk) :
    (perform (.thanked b line)).run d = (.error (.lineOutside line b.document.lineCount), d) := by
  have herror : ∃ e, b.document.lineAt (line - 1) = .error e := by
    cases hat : b.document.lineAt (line - 1) with
    | ok text => exact absurd ((exists_lineAt_iff _ _).mp ⟨text, hat⟩) hline
    | error e => exact ⟨e, rfl⟩
  obtain ⟨e, he⟩ := herror
  unfold perform sayThanks
  rw [run_bind, he]
  rfl

theorem run_thanked (b : Buffer) (line : Int) (d : Desk) :
    (perform (.thanked b line)).run d =
      match (sayThanks b.document line).run d with
      | (.ok o, d') => (.ok (.outcome o), d')
      | (.error e, d') => (.error e, d') := by
  unfold perform
  rw [run_bind]
  rcases (sayThanks b.document line).run d with ⟨e | o, d'⟩ <;> rfl

/-- The message of thanks that an event has brought to its end, if any. -/
def Event.outcomes (d : Desk) : Event → List Outcome
  | .thanked b line =>
    match ((sayThanks b.document line).run d).1 with
    | .ok o => [o]
    | .error _ => []
  | _ => []

/-- What an event does to the counter of a session. -/
inductive Turn (stored : Option Json) : Option Counter → Option Counter → List Outcome → Prop
  | same {c : Option Counter} : Turn stored c c []
  | looked {n : Counter} : FirstCounter stored n → Turn stored none (some n) []
  | counted {c : Option Counter} {n : Counter} {o : Outcome} :
      (c = some n ∨ c = none ∧ FirstCounter stored n) → Counts n.value o →
        Turn stored c (some ⟨o.counter, false⟩) [o]

theorem ready_formLink (hapart : i.Apart) (hready : Ready i sink stored d) (base question : Text) :
    Ready i sink stored ((formLink base question).run d).2 ∧
      ((formLink base question).run d).2.session.counter = d.session.counter := by
  unfold formLink
  rw [run_bind, run_session]
  dsimp only
  split
  · exact ⟨hready, rfl⟩
  · exact ⟨hready, rfl⟩
  · obtain ⟨id, d', ds, hrun, hsession, -, -, hready'⟩ := run_userId hapart hready
    have hcounter : d'.session.counter = d.session.counter := by rw [hsession]
    rw [run_bind, hrun]
    exact ⟨hready', hcounter⟩

/-- A message of thanks for a line of its document comes to its end if its questions are answered. -/
theorem exists_outcome {b : Buffer} {line : Int} (hapart : i.Apart) (hspares : sink.Spares i.path)
    (hready : Ready i sink stored d) (hline : 1 ≤ line ∧ line ≤ b.document.lineCount)
    (hanswered : ((perform (.thanked b line)).run d).1 ≠ .error .inputEnded) :
    ∃ text o n d', b.document.lineAt (line - 1) = .ok text ∧
      (sayThanks b.document line).run d = (.ok o, d') ∧ Ready i sink stored d' ∧
      d'.session.counter = some ⟨o.counter, false⟩ ∧
      (d.session.counter = some n ∨ d.session.counter = none ∧ FirstCounter stored n) ∧
      Counts n.value o ∧ Completes i sink line text d o d'.host := by
  obtain ⟨text, htext⟩ := (exists_lineAt_iff _ _).mpr hline
  rcases hrun : (sayThanks b.document line).run d with ⟨r, d'⟩
  rw [run_thanked, hrun] at hanswered
  have hr : r ≠ .error .inputEnded := by
    rintro rfl
    exact hanswered rfl
  obtain ⟨o, n, rfl, hmessage⟩ :=
    of_run_sayThanks hapart hspares hready htext hrun fun hend => absurd hend hr
  exact ⟨text, o, n, d', htext, rfl, hmessage⟩

theorem ready_thanked {b : Buffer} {line : Int} (hapart : i.Apart) (hspares : sink.Spares i.path)
    (hready : Ready i sink stored d)
    (hanswered : ((perform (.thanked b line)).run d).1 ≠ .error .inputEnded) :
    Ready i sink stored (d.step (.thanked b line)) ∧
      Turn stored d.session.counter (d.step (.thanked b line)).session.counter
        (Event.outcomes d (.thanked b line)) := by
  by_cases hline : 1 ≤ line ∧ line ≤ b.document.lineCount
  · obtain ⟨text, o, n, d', -, hrun, hready', hcounter, hn, hcounts, -⟩ :=
      exists_outcome hapart hspares hready hline hanswered
    have hstep : d.step (.thanked b line) = d' := by
      unfold Desk.step
      rw [run_thanked, hrun]
    have houtcomes : Event.outcomes d (.thanked b line) = [o] := by
      unfold Event.outcomes
      dsimp only
      rw [hrun]
    rw [hstep, houtcomes, hcounter]
    exact ⟨hready', .counted hn hcounts⟩
  · have houtside := run_thanked_of_outside hline d
    have hstill : d.step (.thanked b line) = d := by
      unfold Desk.step
      rw [houtside]
    have hnone : Event.outcomes d (.thanked b line) = [] := by
      rw [run_thanked] at houtside
      unfold Event.outcomes
      dsimp only
      rcases hrun : (sayThanks b.document line).run d with ⟨e | o, d'⟩
      · rfl
      · rw [hrun] at houtside
        cases houtside
    rw [hstill, hnone]
    exact ⟨hready, .same⟩

theorem ready_step (hapart : i.Apart) (hspares : sink.Spares i.path) (hready : Ready i sink stored d)
    {e : Event} (hanswered : ((perform e).run d).1 ≠ .error .inputEnded) :
    Ready i sink stored (d.step e) ∧
      Turn stored d.session.counter (d.step e).session.counter (e.outcomes d) := by
  have quiet : ∀ {e : Event}, ¬ e.Counts → Ready i sink stored (d.step e) ∧
      Turn stored d.session.counter (d.step e).session.counter [] := by
    intro e he
    have hsame := sameSurvey_step (d := d) he
    exact ⟨hready.of_same hsame, hsame.counter_eq ▸ .same⟩
  have linked : ∀ base question, Ready i sink stored ((formLink base question).run d).2 ∧
      Turn stored d.session.counter ((formLink base question).run d).2.session.counter [] := by
    intro base question
    obtain ⟨hready', hcounter⟩ := ready_formLink hapart hready base question
    exact ⟨hready', hcounter ▸ .same⟩
  cases e with
  | thanked b line => exact ready_thanked hapart hspares hready hanswered
  | saidMore =>
    have hstep : d.step .saidMore = ((formLink Form.sayMore Form.sayMoreQuestion).run d).2 :=
      snd_run_bind_pure _ _ d
    exact hstep ▸ linked _ _
  | surveyed =>
    have hstep : d.step .surveyed = ((formLink Form.survey Form.surveyQuestion).run d).2 :=
      snd_run_bind_pure _ _ d
    exact hstep ▸ linked _ _
  | userAsked =>
    have hstep : d.step .userAsked = (userId.run d).2 := snd_run_bind_pure _ _ d
    obtain ⟨id, d', ds, hrun, hsession, -, -, hready'⟩ := run_userId hapart hready
    have hcounter : d'.session.counter = d.session.counter := by rw [hsession]
    rw [hstep, hrun]
    exact ⟨hready', hcounter ▸ .same⟩
  | countAsked =>
    have hstep : d.step .countAsked = (surveyCounter.run d).2 := snd_run_bind_pure _ _ d
    obtain ⟨n, d', hrun, hsession, -, hn, hready'⟩ := run_surveyCounter hready
    have hcounter : d'.session.counter = some n := by rw [hsession]
    rw [hstep, hrun]
    refine ⟨hready', ?_⟩
    show Turn stored d.session.counter d'.session.counter []
    rw [hcounter]
    rcases hn with hn | ⟨hnone, hfirst⟩
    · rw [hn]
      exact .same
    · rw [hnone]
      exact .looked hfirst
  | _ => exact quiet (fun h => h)

/-! ## The schedule -/

/-- Whether messages of thanks count down one after the other from a counter. -/
def Chained (n : Int) : List Outcome → Prop
  | [] => True
  | o :: os => Counts n o ∧ Chained o.counter os

/-- Whether the survey is offered when it should be, for a first counter `n`: first at the message with
index `n`, and after an offer that left the counter at `r` again `r + 1` messages later. -/
structure Schedule (n : Int) (os : List Outcome) : Prop where
  first : ∀ (j : Nat) o, os[j]? = some o → (j : Int) ≤ n → (o.surveyOffered ↔ (j : Int) = n)
  next : ∀ (j k : Nat) o o', os[j]? = some o → o.surveyOffered → os[k]? = some o' → j < k →
    (k : Int) ≤ j + o.counter + 1 → (o'.surveyOffered ↔ (k : Int) = j + o.counter + 1)
  reset : ∀ o ∈ os, o.surveyOffered → 1 ≤ o.counter ∧ o.counter ≤ 4

theorem Counts.nonneg (h : Counts n o) (hn : 0 ≤ n) : 0 ≤ o.counter := by
  by_cases hzero : n = 0
  · have := h.reset hzero
    omega
  · have := h.down hzero
    omega

theorem Chained.first (h : Chained n os) (hn : 0 ≤ n) {j : Nat} (ho : os[j]? = some o)
    (hj : (j : Int) ≤ n) : o.surveyOffered ↔ (j : Int) = n := by
  induction os generalizing n j with
  | nil => simp at ho
  | cons o₁ os ih =>
    obtain ⟨hcounts, hrest⟩ := h
    cases j with
    | zero =>
      obtain rfl : o₁ = o := by simpa using ho
      rw [hcounts.offered_iff]
      exact eq_comm
    | succ j =>
      have hdown := hcounts.down (by omega)
      rw [ih hrest (hcounts.nonneg hn) (by simpa using ho) (by omega)]
      omega

/-- What is chained from a counter is chained from each of its outcomes on. -/
theorem Chained.drop (h : Chained n os) (hn : 0 ≤ n) {j : Nat} (ho : os[j]? = some o) :
    (∃ m, 0 ≤ m ∧ Counts m o) ∧ Chained o.counter (os.drop (j + 1)) := by
  induction os generalizing n j with
  | nil => simp at ho
  | cons o₁ os ih =>
    obtain ⟨hcounts, hrest⟩ := h
    cases j with
    | zero =>
      obtain rfl : o₁ = o := by simpa using ho
      exact ⟨⟨n, hn, hcounts⟩, hrest⟩
    | succ j => exact ih hrest (hcounts.nonneg hn) (by simpa using ho)

theorem Chained.schedule (h : Chained n os) (hn : 0 ≤ n) : Schedule n os where
  first := fun _ _ ho hj => h.first hn ho hj
  next := by
    intro j k o o' ho _ ho' hjk hk
    obtain ⟨⟨m, hm, hcounts⟩, hrest⟩ := h.drop hn ho
    have hat : (os.drop (j + 1))[k - (j + 1)]? = some o' := by
      rw [List.getElem?_drop, Nat.add_sub_cancel' hjk]
      exact ho'
    rw [hrest.first (hcounts.nonneg hm) hat (by omega)]
    omega
  reset := by
    intro o ho hoffered
    obtain ⟨j, hj⟩ := List.mem_iff_getElem?.mp ho
    obtain ⟨⟨m, hm, hcounts⟩, -⟩ := h.drop hn hj
    exact hcounts.reset (hcounts.offered_iff.mp hoffered)

/-! ## Runs -/

/-- The messages of thanks that a run brings to their end. -/
def outcomes (d : Desk) : List Event → List Outcome
  | [] => []
  | e :: es => e.outcomes d ++ outcomes (d.step e) es

/-- Whether the input ends at no question. -/
def Answered (d : Desk) : List Event → Prop
  | [] => True
  | e :: es => ((perform e).run d).1 ≠ .error .inputEnded ∧ Answered (d.step e) es

/-- Whether the counter of a session, if it is known, is the one after the last message of thanks, or
the first one if there was none. -/
def Shows (n : Int) (counter : Option Counter) (os : List Outcome) : Prop :=
  match counter with
  | none => os = []
  | some c => 0 ≤ c.value ∧ c.value = (os.getLast?.map (·.counter)).getD n

theorem ready_take {es : List Event} (hapart : i.Apart) (hspares : sink.Spares i.path)
    (hready : Ready i sink stored d) (hanswered : Answered d es) {k : Nat} {e : Event}
    (he : es[k]? = some e) :
    Ready i sink stored (d.run (es.take k)) ∧
      ((perform e).run (d.run (es.take k))).1 ≠ .error .inputEnded := by
  induction es generalizing d k with
  | nil => simp at he
  | cons e₁ es ih =>
    obtain ⟨hfirst, hrest⟩ := hanswered
    cases k with
    | zero =>
      obtain rfl : e₁ = e := by simpa using he
      exact ⟨hready, hfirst⟩
    | succ k => exact ih (ready_step hapart hspares hready hfirst).1 hrest (by simpa using he)

/-- A counter that may be the first one exists, and is stored or counted as a number. -/
theorem exists_first (hcountable : Countable stored) : ∃ m, FirstCounter stored ⟨m, false⟩ := by
  cases stored with
  | none => exact ⟨0, .fresh (by simp) (by simp) (le_refl 0) (by decide)⟩
  | some v =>
    obtain ⟨m, -, rfl⟩ := hcountable v rfl
    by_cases hm : m = 0
    · exact ⟨0, .fresh (by rintro k ⟨⟩; exact hm) (by simp) (le_refl 0) (by decide)⟩
    · exact ⟨m, .stored hm⟩

theorem first_eq {c : Counter} (hcountable : Countable stored) (hfirst : FirstCounter stored c) :
    FirstCounter stored ⟨c.value, false⟩ := by
  cases hfirst with
  | stored hne => exact .stored hne
  | storedTrue =>
    obtain ⟨m, -, hm⟩ := hcountable _ rfl
    cases hm
  | fresh hint htrue hlow hhigh => exact .fresh hint htrue hlow hhigh

/-- A counter that is known stays known. -/
theorem counter_ne_none {es : List Event} (hapart : i.Apart) (hspares : sink.Spares i.path)
    (hready : Ready i sink stored d) (hanswered : Answered d es) (hc : d.session.counter ≠ none) :
    (d.run es).session.counter ≠ none := by
  induction es generalizing d with
  | nil => exact hc
  | cons e es ih =>
    obtain ⟨hfirst, hrest⟩ := hanswered
    obtain ⟨hready', hturn⟩ := ready_step hapart hspares hready hfirst
    refine ih hready' hrest ?_
    revert hc hturn
    generalize d.session.counter = c, (d.step e).session.counter = c', e.outcomes d = os
    intro hc hturn
    cases hturn with
    | same => exact hc
    | looked hfirst => simp
    | counted hn hcounts => simp

theorem answered_take {es : List Event} (hanswered : Answered d es) (k : Nat) :
    Answered d (es.take k) := by
  induction es generalizing d k with
  | nil => simpa using hanswered
  | cons e es ih =>
    cases k with
    | zero => trivial
    | succ k => exact ⟨hanswered.1, ih hanswered.2 k⟩

theorem Ready.shows {m : Int} (hready : Ready i sink stored d)
    (hm : ∀ c, d.session.counter = some c → m = c.value) : Shows m d.session.counter [] := by
  unfold Shows
  cases hc : d.session.counter with
  | none => rfl
  | some c => exact ⟨(hready.counter c hc).1, (hm c hc).symm⟩

/-- What is shown after some messages is shown after one more before them, if the first of them left the
counter where they start. -/
theorem Shows.cons {c : Option Counter} (h : Shows o.counter c os) (hc : c ≠ none) (n : Int) :
    Shows n c (o :: os) := by
  cases c with
  | none => exact absurd rfl hc
  | some c =>
    obtain ⟨hnonneg, hvalue⟩ := h
    refine ⟨hnonneg, ?_⟩
    rw [List.getLast?_cons, hvalue]
    cases os.getLast? <;> rfl

/-- A run counts down from the counter of the session, or from the first one if that is not known. -/
theorem chained_of_run {es : List Event} (hapart : i.Apart) (hspares : sink.Spares i.path)
    (hready : Ready i sink stored d) (hanswered : Answered d es) :
    ∃ m, (∀ c, d.session.counter = some c → m = c.value) ∧
      (d.session.counter = none → FirstCounter stored ⟨m, false⟩) ∧
      Chained m (outcomes d es) ∧
      ∀ k, Shows m (d.run (es.take k)).session.counter (outcomes d (es.take k)) := by
  induction es generalizing d with
  | nil =>
    obtain ⟨m, hsome, hnone⟩ : ∃ m, (∀ c, d.session.counter = some c → m = c.value) ∧
        (d.session.counter = none → FirstCounter stored ⟨m, false⟩) := by
      cases d.session.counter with
      | none =>
        obtain ⟨m, hm⟩ := exists_first hready.countable
        exact ⟨m, by simp, fun _ => hm⟩
      | some c => exact ⟨c.value, by simp, by simp⟩
    refine ⟨m, hsome, hnone, trivial, fun k => ?_⟩
    rw [List.take_nil]
    exact hready.shows hsome
  | cons e es ih =>
    obtain ⟨hfirst, hrest⟩ := hanswered
    obtain ⟨hready', hturn⟩ := ready_step hapart hspares hready hfirst
    obtain ⟨m, hsome, hnone, hchained, hshows⟩ := ih hready' hrest
    have hknown := fun k => counter_ne_none hapart hspares hready' (answered_take hrest k)
    -- it is enough to look at the first event, for the others are the rest of the run
    suffices hfirst : ∃ m', (∀ c, d.session.counter = some c → m' = c.value) ∧
        (d.session.counter = none → FirstCounter stored ⟨m', false⟩) ∧
        Chained m' (e.outcomes d ++ outcomes (d.step e) es) ∧
        ∀ k, Shows m' ((d.step e).run (es.take k)).session.counter
          (e.outcomes d ++ outcomes (d.step e) (es.take k)) by
      obtain ⟨m', hsome', hnone', hchained', hshows'⟩ := hfirst
      refine ⟨m', hsome', hnone', hchained', fun k => ?_⟩
      cases k with
      | zero => exact hready.shows hsome'
      | succ k => exact hshows' k
    have hcounter : ∀ c, d.session.counter = some c → 0 ≤ c.value := fun c hc => (hready.counter c hc).1
    revert hturn hsome hnone hknown hcounter
    generalize d.session.counter = c, (d.step e).session.counter = c', e.outcomes d = os
    intro hturn hsome hnone hknown hcounter
    cases hturn with
    | same => exact ⟨m, hsome, hnone, hchained, hshows⟩
    | @looked n hlooked =>
      have hm : m = n.value := hsome n rfl
      exact ⟨m, by simp, fun _ => hm ▸ first_eq hready.countable hlooked, hchained, hshows⟩
    | @counted _ n o hn hcounts =>
      obtain rfl : m = o.counter := hsome _ rfl
      refine ⟨n.value, ?_, ?_, ⟨hcounts, hchained⟩, fun k => (hshows k).cons (hknown k (by simp)) n.value⟩
      · rintro c rfl
        rcases hn with hn | ⟨hn, -⟩ <;> cases hn
        rfl
      · rintro rfl
        rcases hn with hn | ⟨-, hlooked⟩
        · cases hn
        · exact first_eq hready.countable hlooked

/-- The survey is offered on schedule, where the state file can be stored and loaded. The schedule starts
from the stored counter, or from a small one if none is stored or it is zero; the counter of the session
follows the messages of thanks and is never negative. Each message for a line of its document hands one
response to the sink of the session, offers a longer note and, if it is due, the survey, and stores its
counter; for any other line nothing happens at all. -/
theorem survey_of_run {h : Host} {fields : List (Units × Json)} (settings : Settings)
    (notifier : Notifier) (hapart : i.Apart) (hspares : sink.Spares i.path)
    (hholds : i.Holds h fields) (hcountable : Countable (Fields.get? fields counterKey))
    {es : List Event} (hanswered : Answered ⟨start settings notifier sink i, h⟩ es) :
    (∃ m, FirstCounter (Fields.get? fields counterKey) ⟨m, false⟩ ∧
      Schedule m (outcomes ⟨start settings notifier sink i, h⟩ es) ∧
      ∀ k, Shows m (Desk.run ⟨start settings notifier sink i, h⟩ (es.take k)).session.counter
        (outcomes ⟨start settings notifier sink i, h⟩ (es.take k))) ∧
    ∀ (k : Nat) b line d, es[k]? = some (.thanked b line) →
      d = Desk.run ⟨start settings notifier sink i, h⟩ (es.take k) →
      if 1 ≤ line ∧ line ≤ b.document.lineCount then
        ∃ text o d', b.document.lineAt (line - 1) = .ok text ∧
          (perform (.thanked b line)).run d = (.ok (.outcome o), d') ∧ Completes i sink line text d o d'.host
      else (perform (.thanked b line)).run d = (.error (.lineOutside line b.document.lineCount), d) := by
  have hready : Ready i sink (Fields.get? fields counterKey) ⟨start settings notifier sink i, h⟩ :=
    ⟨rfl, rfl, hcountable, ⟨fields, hholds, fun _ => rfl, fun huser => absurd rfl huser⟩,
      fun c hc => by cases hc⟩
  obtain ⟨m, -, hfirst, hchained, hshows⟩ := chained_of_run hapart hspares hready hanswered
  have hnonneg : 0 ≤ m := nonneg_of_firstCounter hcountable (hfirst rfl)
  refine ⟨⟨m, hfirst rfl, hchained.schedule hnonneg, hshows⟩, ?_⟩
  rintro k b line d hk rfl
  obtain ⟨hready', hanswered'⟩ := ready_take hapart hspares hready hanswered hk
  split
  · next hline =>
    obtain ⟨text, o, n, d', htext, hrun, -, -, -, -, hcompletes⟩ :=
      exists_outcome hapart hspares hready' hline hanswered'
    exact ⟨text, o, d', htext, by rw [run_thanked, hrun], hcompletes⟩
  · next hline => exact run_thanked_of_outside hline _

/-- A line that is not there and two that are, in a new home. -/
theorem survey_of_three_events :
    let i : Identity := ⟨⟨[], ["state.json".toList]⟩, none⟩
    let d : Desk := ⟨start {} (.recording true) (.memory fun _ => none) i, {}⟩
    let b : Buffer := ⟨0, { text := "import os".toList, language := "python" }⟩
    (∃ m, 0 ≤ m ∧ m ≤ 4 ∧ Schedule m (outcomes d [.thanked b 2, .thanked b 1, .thanked b 1])) ∧
      ∃ o d', (perform (.thanked b 1)).run (d.run [.thanked b 2]) = (.ok (.outcome o), d') ∧
        Completes i (.memory fun _ => none) 1 "import os".toList (d.run [.thanked b 2]) o d'.host := by
  intro i d b
  have hstore : d.host.files.Storable i.path := fun bytes => ⟨_, rfl⟩
  have hapart : i.Apart := by
    rintro sink ⟨⟩
  have hcountable : Countable (Fields.get? ([] : List (Units × Json)) counterKey) := by
    rintro v ⟨⟩
  have hend : ∀ {r : Except Fault Reply}, r.isOk → r ≠ .error .inputEnded := by
    rintro r hr rfl
    cases hr
  have hanswered : Answered d [.thanked b 2, .thanked b 1, .thanked b 1] := by
    refine ⟨?_, hend (by decide +kernel), hend (by decide +kernel), trivial⟩
    rw [run_thanked_of_outside (by decide)]
    simp
  obtain ⟨⟨m, hfirst, hschedule, -⟩, hevents⟩ :=
    survey_of_run {} (.recording true) hapart (Sink.spares_memory _ _) ⟨hstore, rfl⟩ hcountable hanswered
  refine ⟨⟨m, ?_, ?_, hschedule⟩, ?_⟩
  · exact nonneg_of_firstCounter hcountable hfirst
  · have hnone : Fields.get? ([] : List (Units × Json)) counterKey = none := rfl
    rw [hnone] at hfirst
    cases hfirst with
    | fresh _ _ _ hhigh => exact hhigh
  · obtain ⟨text, o, d', htext, hrun, hcompletes⟩ := hevents 1 b 1 _ rfl rfl
    obtain rfl : "import os".toList = text := by
      have hline : b.document.lineAt (1 - 1) = .ok "import os".toList := by decide +kernel
      rw [hline] at htext
      exact Except.ok.inj htext
    exact ⟨o, d', hrun, hcompletes⟩

/-- Not every message of thanks comes to its end: a state file with the single byte FF, which can be stored
and holds no counter, stops the first one, and nothing is handed over or asked. -/
theorem thanks_stopped_by_file :
    let i : Identity := ⟨⟨[], ["state.json".toList]⟩, none⟩
    let h : Host := { files := { entries := [(["state.json".toList], .file [0xFF])] } }
    let d : Desk := ⟨start {} (.recording true) (.memory fun _ => none) i, h⟩
    let b : Buffer := ⟨0, { text := "import os".toList, language := "python" }⟩
    h.files.Storable i.path ∧ 1 ≤ b.document.lineCount ∧
      ∃ d', (perform (.thanked b 1)).run d = (.error .badEncoding, d') ∧ d'.host.deliveries = [] ∧
        d'.host.notices = [] := by
  intro i h d b
  have hread : h.files.read i.path = .ok [0xFF] := rfl
  have hrun : (perform (.thanked b 1)).run d = (.error .badEncoding, ((perform (.thanked b 1)).run d).2) := by
    rw [run_thanked]
    rfl
  refine ⟨.of_read hread, by decide +kernel, _, hrun, ?_⟩
  rw [run_thanked]
  exact ⟨rfl, rfl⟩

end Session

end Kudos
