import Mathlib
import Kudos.Identity
import Kudos.Notifier
import Kudos.Proofs.Display.Markup

/-!
# What the user is told

`Leads R` says of an action that it leads every state to one related to it by `R`, whether it fails
or not; for a preorder this is closed under composition, so it is proved of an action part by part.
`Notifier.Tells` relates two states of a host between which the user has got messages of some kind
and nothing else. Looking up and storing the identity tells the user nothing.
-/

namespace Kudos

/-! ## Actions and relations between states -/

section

variable {σ α β : Type} {R : σ → σ → Prop} {a : ActionOn σ α} {f : α → ActionOn σ β} {s : σ}

/-- Whether an action leads every state to one that is related to it. -/
def Leads (R : σ → σ → Prop) (a : ActionOn σ α) : Prop :=
  ∀ s, R s (a.run s).2

theorem run_bind (a : ActionOn σ α) (f : α → ActionOn σ β) (s : σ) :
    (a >>= f).run s =
      match a.run s with
      | (.ok x, s') => (f x).run s'
      | (.error e, s') => (.error e, s') := by
  show (match a.run s with
      | (r, s') => (ExceptT.bindCont f r).run s') = _
  rcases a.run s with ⟨e | x, s'⟩ <;> rfl

theorem snd_run_bind_pure (a : ActionOn σ α) (g : α → β) (s : σ) :
    ((a >>= fun x => pure (g x)).run s).2 = (a.run s).2 := by
  rw [run_bind]
  rcases a.run s with ⟨e | x, s'⟩ <;> rfl

/-- After a look at the state an action goes on from that same state. -/
theorem leads_get_bind {g : σ → ActionOn σ β} (h : ∀ s, R s ((g s).run s).2) :
    Leads R (get >>= g) :=
  fun s => h s

variable [IsPreorder σ R]

theorem rel_bind (ha : R s (a.run s).2) (hf : ∀ x, Leads R (f x)) : R s ((a >>= f).run s).2 := by
  rw [run_bind]
  cases hrun : a.run s with
  | mk r s' =>
    rw [hrun] at ha
    cases r with
    | error e => exact ha
    | ok x => exact IsTrans.trans _ _ _ ha (hf x s')

theorem leads_bind (ha : Leads R a) (hf : ∀ x, Leads R (f x)) : Leads R (a >>= f) :=
  fun s => rel_bind (ha s) hf

theorem leads_pure (x : α) : Leads R (pure x : ActionOn σ α) :=
  fun s => refl s

theorem leads_throw (e : Fault) : Leads R (throw e : ActionOn σ α) :=
  fun s => refl s

end

/-! ## Messages to the user -/

section

variable {n : Notifier} {ok ok' : Text → Prop} {h h' h'' : Host}

/-- Whether two states of a host look the same to the user. -/
def Host.SameToUser (h h' : Host) : Prop :=
  h'.notices = h.notices ∧ h'.output = h.output

instance : IsPreorder Host Host.SameToUser where
  refl _ := ⟨rfl, rfl⟩
  trans _ _ _ := fun ⟨hn, ho⟩ ⟨hn', ho'⟩ => ⟨hn'.trans hn, ho'.trans ho⟩

/-- Whether between two states of a host the user is told messages of some kind and nothing else. -/
inductive Notifier.Tells (n : Notifier) (ok : Text → Prop) : Host → Host → Prop where
  | refl (h : Host) : n.Tells ok h h
  | silent {h h' h'' : Host} : n.Tells ok h h' → h'.SameToUser h'' → n.Tells ok h h''
  | inform {h h' : Host} (message : Text) (dismiss : Option Number) :
      n.Tells ok h h' → ok message → n.Tells ok h ((n.inform message dismiss).run h').2
  | offer {h h' : Host} (message action : Text) :
      n.Tells ok h h' → ok message → n.Tells ok h ((n.offer message action).run h').2

namespace Notifier

theorem Tells.trans (h₁ : n.Tells ok h h') (h₂ : n.Tells ok h' h'') : n.Tells ok h h'' := by
  induction h₂ with
  | refl => exact h₁
  | silent _ same ih => exact .silent ih same
  | inform message dismiss _ hok ih => exact .inform message dismiss ih hok
  | offer message action _ hok ih => exact .offer message action ih hok

instance : IsPreorder Host (n.Tells ok) where
  refl := .refl
  trans _ _ _ := .trans

theorem Tells.mono (hok : ∀ m, ok m → ok' m) (h₁ : n.Tells ok h h') : n.Tells ok' h h' := by
  induction h₁ with
  | refl => exact .refl _
  | silent _ same ih => exact .silent ih same
  | inform message dismiss _ hm ih => exact .inform message dismiss ih (hok _ hm)
  | offer message action _ hm ih => exact .offer message action ih (hok _ hm)

/-- The answer to every question, if it is fixed. -/
def fixed? : Notifier → Option Bool
  | recording answer => some answer
  | console answer => answer

/-- A message can be printed if its markup can be shown. -/
theorem run_print (t : Text) (h : Host) :
    (print t).run h =
      match Markup.print? h.styles consoleWidth t with
      | none => (.error .badMarkup, h)
      | some shown => (.ok (), h.print shown) := by
  have look : (print t).run h = ((match Markup.print? h.styles consoleWidth t with
    | none => throw .badMarkup
    | some shown => modify (·.print shown) : Action Unit).run h) := rfl
  rw [look]
  cases Markup.print? h.styles consoleWidth t <;> rfl

/-- A message without brackets can be printed, whatever the console makes of styles. -/
theorem exists_print?_marked {message : Text} (hmessage : '[' ∉ message) (s : Markup.Styles) :
    ∃ shown, Markup.print? s consoleWidth (marked message) = some shown := by
  have split : marked message = ('[' :: 'c' :: "yan".toList ++ [']']) ++ (['ℹ'] ++
      (('[' :: '/' :: 'c' :: "yan".toList ++ [']']) ++ (' ' :: message))) := by
    unfold marked
    simp
  have hletters : ∀ e ∈ 'c' :: "yan".toList, Markup.isLetter e := by simp [Markup.isLetter]
  have hblank : '[' ∉ ' ' :: message := by simpa using hmessage
  rw [Markup.print?, split, Markup.plain?_styled hletters (Markup.isPlain_of_isOrdinary (by decide)),
    Markup.plain?_of_not_mem hblank]
  exact ⟨_, rfl⟩

/-- A message to the user changes what was said, and nothing else. -/
theorem host_inform (n : Notifier) (message : Text) (dismiss : Option Number) (h : Host) :
    ∃ notices output, ((n.inform message dismiss).run h).2 = { h with notices, output } := by
  cases n with
  | recording answer => exact ⟨_, _, rfl⟩
  | console answer =>
    have hnote : ((dismissNote dismiss).run h).2 = h := by
      unfold dismissNote
      cases dismiss with
      | none => rfl
      | some n =>
        dsimp only
        split
        · rfl
        · cases n.toBinary64? <;> rfl
    unfold inform
    dsimp only
    rw [run_bind]
    rcases hrun : (dismissNote dismiss).run h with ⟨e | note, h'⟩
    · rw [hrun] at hnote
      exact ⟨h.notices, h.output, hnote⟩
    · rw [hrun] at hnote
      obtain rfl : h' = h := hnote
      dsimp only
      rw [run_print]
      cases Markup.print? h'.styles consoleWidth (marked message ++ note) <;> exact ⟨_, _, rfl⟩

/-- A question to the user changes what was said and what is left of the input, and nothing else. -/
theorem host_offer (n : Notifier) (message action : Text) (h : Host) :
    ∃ notices output input, ((n.offer message action).run h).2 = { h with notices, output, input } := by
  have look : ∀ (f : Host → Action Bool) (h : Host), (get >>= f).run h = (f h).run h := fun _ _ => rfl
  unfold offer
  cases n with
  | recording answer => exact ⟨_, _, _, rfl⟩
  | console fixed =>
    dsimp only
    rw [run_bind, run_print]
    cases Markup.print? h.styles consoleWidth (marked message) with
    | none => exact ⟨_, _, _, rfl⟩
    | some shown =>
      cases fixed with
      | some answer => exact ⟨_, h.output ++ shown, _, rfl⟩
      | none =>
        dsimp only
        rw [look]
        rcases askLines action (h.print shown).input with ⟨_ | b, asked, left⟩
        · exact ⟨_, h.output ++ shown ++ asked, left, rfl⟩
        · exact ⟨_, h.output ++ shown ++ asked, left, rfl⟩

end Notifier

end

/-! ## Records and the identity -/

/-- A record that is handed over changes what was delivered and logged, and nothing else. -/
theorem Sink.host_submitInBackground (sink : Sink) (collection : Text) (r : Record) (h : Host) :
    ∃ files attempts deliveries posts warnings, sink.submitInBackground collection r h =
      { h with files, attempts, deliveries, posts, warnings } := by
  have submitted : ∃ files attempts deliveries posts, (sink.submit collection r h).2 =
      { h with files, attempts, deliveries, posts } := by
    unfold submit
    split
    · dsimp only
      split <;> exact ⟨_, _, _, _, rfl⟩
    · split
      · exact ⟨_, _, _, _, rfl⟩
      · split <;> exact ⟨_, _, _, _, rfl⟩
    · split
      · exact ⟨_, _, _, _, rfl⟩
      · split <;> exact ⟨_, _, _, _, rfl⟩
  obtain ⟨files, attempts, deliveries, posts, hsubmit⟩ := submitted
  unfold submitInBackground submitSafely
  rcases hresult : sink.submit collection r h with ⟨_ | _, h'⟩
  · obtain rfl : h' = { h with files, attempts, deliveries, posts } := by rw [← hsubmit, hresult]
    dsimp only
    split <;> exact ⟨_, _, _, _, _, rfl⟩
  · obtain rfl : h' = { h with files, attempts, deliveries, posts } := by rw [← hsubmit, hresult]
    exact ⟨_, _, _, _, _, rfl⟩

theorem Sink.sameToUser_submitInBackground (sink : Sink) (collection : Text) (r : Record) (h : Host) :
    h.SameToUser (sink.submitInBackground collection r h) := by
  obtain ⟨_, _, _, _, _, hsubmit⟩ := sink.host_submitInBackground collection r h
  rw [hsubmit]
  exact ⟨rfl, rfl⟩

namespace Identity

open Host

theorem leads_load (i : Identity) : Leads SameToUser i.load := by
  refine leads_get_bind fun h => ?_
  split
  · exact leads_pure _ h
  · split
    · exact ⟨rfl, rfl⟩
    · split
      · exact leads_throw _ h
      · split
        · exact ⟨rfl, rfl⟩
        · exact leads_throw _ h
        · exact leads_pure _ h

theorem leads_update (i : Identity) (key : Units) (value : Json) :
    Leads SameToUser (i.update key value) := by
  refine leads_bind i.leads_load fun fields => leads_get_bind fun h => ?_
  split
  · exact ⟨rfl, rfl⟩
  · split
    · exact ⟨rfl, rfl⟩
    · split <;> exact ⟨rfl, rfl⟩

theorem leads_userId (i : Identity) : Leads SameToUser i.userId := by
  have register : Leads SameToUser (userId.register i) := by
    refine leads_bind (fun h => ⟨rfl, rfl⟩) fun id => leads_bind (i.leads_update _ _) fun _ => ?_
    cases i.sink with
    | none => exact leads_pure _
    | some sink =>
      exact leads_bind (fun h => sink.sameToUser_submitInBackground _ _ h) fun _ => leads_pure _
  refine leads_bind i.leads_load fun fields => ?_
  split
  · split
    · exact leads_pure _
    · exact register
  · exact register

theorem leads_loadCounter (i : Identity) : Leads SameToUser i.loadCounter := by
  have fresh : Leads SameToUser loadCounter.fresh :=
    leads_bind (fun h => ⟨rfl, rfl⟩) fun _ => leads_pure _
  refine leads_bind i.leads_load fun fields => ?_
  split
  · split
    · exact leads_pure _
    · exact fresh
  · exact leads_pure _
  · exact fresh

theorem leads_advanceCounter (i : Identity) (n : Int) : Leads SameToUser (i.advanceCounter n) := by
  unfold advanceCounter
  split
  · refine leads_bind (fun h => ⟨rfl, rfl⟩) fun fresh => ?_
    exact leads_bind (i.leads_update _ _) fun _ => leads_pure _
  · split
    · exact leads_bind (i.leads_update _ _) fun _ => leads_pure _
    · exact leads_pure _

end Identity

end Kudos
