import Mathlib
import Kudos.Proofs.Session.Step

/-!
# What a session shows agrees with what it found

The analysis, the decorations and the import flag are renewed by different events: a refresh renews
all of them, a change of theme only the decorations, an edit nothing unless the document is the active
one. `Coherent` holds between them after every run, and while a document is active the analysis is
that of this document. Documents are compared by their numbers, so a number has to stand for one
document throughout the run.
-/

namespace Kudos

variable {s s' : Session} {e : Session.Event} {es : List Session.Event} {bs : List Buffer} {b : Buffer}

/-- The lines of an analysis stand in strictly ascending order. -/
theorem Analysis.pairwise_lines (d : Document) : (ofDocument d).lines.Pairwise (· < ·) := by
  unfold ofDocument
  split
  · exact List.Pairwise.nil
  · exact pairwise_ascending _

/-- Lines in strictly ascending order have one decoration each, in the same order. -/
theorem Decoration.ofLines_eq_map {lines : List Int} (h : lines.Pairwise (· < ·)) (theme : Theme) :
    ofLines lines theme = lines.map fun line => { line, theme } := by
  have trans : ∀ a b c : Int, decide (a ≤ b) → decide (b ≤ c) → decide (a ≤ c) := by
    simp only [decide_eq_true_eq]
    omega
  have total : ∀ a b : Int, decide (a ≤ b) || decide (b ≤ a) := by
    simp only [Bool.or_eq_true, decide_eq_true_eq]
    omega
  have ordered := Ascending.pairwise_ofList trans total lines
  have same : Ascending.ofList (fun a b => decide (a ≤ b)) lines = lines := by
    have nodup : lines.Nodup := h.imp ne_of_lt
    have perm : (Ascending.ofList (fun a b => decide (a ≤ b)) lines).Perm lines :=
      (List.perm_ext_iff_of_nodup (Ascending.nodup_ofList _ lines) nodup).mpr
        fun a => Ascending.mem_ofList
    have sorted : (Ascending.ofList (fun a b => decide (a ≤ b)) lines).Pairwise (· ≤ ·) :=
      ordered.imp fun hab => of_decide_eq_true hab.1
    exact perm.eq_of_pairwise (fun a b _ _ => le_antisymm) sorted (h.imp le_of_lt)
  rw [ofLines, same]

namespace Session

theorem decorate_eq_map {a : Analysis} (h : a.lines.Pairwise (· < ·)) (theme : Theme) :
    decorate a theme = a.lines.map fun n => { line := Int.ofNat n, theme } := by
  have lifted : (a.lines.map Int.ofNat).Pairwise (· < ·) :=
    h.map _ fun m n hlt => Int.ofNat_lt.mpr hlt
  rw [decorate, Decoration.ofLines_eq_map lifted, List.map_map]
  rfl

/-- What a session shows agrees with its last analysis, which is that of the active document. -/
structure Coherent (s : Session) : Prop where
  pairwise_lines : s.result.lines.Pairwise (· < ·)
  decorations_eq : s.decorations = s.result.lines.map fun n => { line := Int.ofNat n, theme := s.theme }
  hasImport_eq : s.hasImport = s.result.hasImport
  result_eq : ∀ b, s.active = some b → s.result = Analysis.ofDocument b.document

theorem coherent_core : s.core.Coherent ↔ s.Coherent :=
  ⟨fun h => ⟨h.1, h.2, h.3, h.4⟩, fun h => ⟨h.1, h.2, h.3, h.4⟩⟩

theorem coherent_start (settings : Settings) (notifier : Notifier) (sink : Sink)
    (identity : Identity) : (start settings notifier sink identity).Coherent where
  pairwise_lines := List.Pairwise.nil
  decorations_eq := rfl
  hasImport_eq := rfl
  result_eq := by simp [start]

/-! ## What keeps the agreement -/

/-- A refresh brings about the agreement, whatever was before. -/
theorem coherent_refresh (s : Session) {d : Document}
    (h : ∀ b, s.active = some b → b.document = d) : (s.refresh d).Coherent where
  pairwise_lines := Analysis.pairwise_lines d
  decorations_eq := decorate_eq_map (Analysis.pairwise_lines d) s.theme
  hasImport_eq := rfl
  result_eq := fun b hb => congrArg Analysis.ofDocument (h b hb).symm

theorem Coherent.changeTheme (h : s.Coherent) (name : Text) : (s.changeTheme name).Coherent where
  pairwise_lines := h.pairwise_lines
  decorations_eq := decorate_eq_map h.pairwise_lines _
  hasImport_eq := h.hasImport_eq
  result_eq := h.result_eq

theorem Coherent.armReminder (h : s.Coherent) : s.armReminder.Coherent :=
  ⟨h.1, h.2, h.3, h.4⟩

theorem Coherent.stopReminder (h : s.Coherent) : s.stopReminder.Coherent :=
  ⟨h.1, h.2, h.3, h.4⟩

theorem Coherent.checkKeyword (h : s.Coherent) : s.checkKeyword.Coherent := by
  obtain ⟨_, _, hs⟩ := s.checkKeyword_eq
  rw [hs]
  exact ⟨h.1, h.2, h.3, h.4⟩

/-- A switch to a document brings it about as well. -/
theorem coherent_switchTo (s : Session) (b : Buffer) : (s.switchTo (some b)).Coherent := by
  have renewed : ({ s with active := some b }.refresh b.document).Coherent :=
    coherent_refresh _ fun b' hb' => by cases hb'; rfl
  exact renewed.checkKeyword

theorem Coherent.switchTo (h : s.Coherent) : (b : Option Buffer) → (s.switchTo b).Coherent
  | none => ⟨h.1, h.2, h.3, by simp [Session.switchTo]⟩
  | some b => coherent_switchTo s b

/-- An edit renews everything, or nothing that shows. It renews the analysis of the active document
because the edited one has the same number. -/
theorem Coherent.edited (h : s.Coherent) (edits : List Edit)
    (hone : ∀ a, s.active = some a → a.id = b.id → a = b) :
    (Event.effect s (.edited b edits)).Coherent := by
  set t : Session := { s.armReminder with detector := (s.detector.edited b.document edits).1 } with ht
  have hactive : t.active = s.active := rfl
  show (if t.isActive b then t.refresh b.document else t).Coherent
  split
  · next hb =>
    refine coherent_refresh t fun a ha => ?_
    have hid : a.id = b.id := by
      unfold isActive at hb
      rw [ha] at hb
      simpa using hb
    rw [hone a (hactive ▸ ha) hid]
  · exact ⟨h.1, h.2, h.3, h.4⟩

/-! ## Runs -/

/-- The documents of an event. -/
def Event.buffers : Event → List Buffer
  | .opened b | .refreshed b | .edited b _ | .thanked b _ => [b]
  | .switched b => b.toList
  | _ => []

/-- The active document is the one that was active before, or one of the event. -/
theorem active_effect (h : (Event.effect s e).active = some b) :
    s.active = some b ∨ b ∈ e.buffers := by
  cases e with
  | opened c =>
    rw [Event.effect, Session.switchTo, active_checkKeyword] at h
    cases h
    exact .inr (by simp [Event.buffers])
  | switched c =>
    cases c with
    | none => simp [Event.effect, Session.switchTo] at h
    | some c =>
      rw [Event.effect, Session.switchTo, active_checkKeyword] at h
      cases h
      exact .inr (by simp [Event.buffers])
  | edited c edits =>
    unfold Event.effect at h
    dsimp only at h
    split at h <;> exact .inl h
  | checked =>
    rw [Event.effect, active_checkKeyword] at h
    exact .inl h
  | _ => exact .inl h

/-- Every event but a refresh of an arbitrary document keeps the agreement. -/
theorem Coherent.effect (h : s.Coherent) (hrefresh : ∀ b, e ≠ .refreshed b)
    (hone : ∀ a, s.active = some a → ∀ b ∈ e.buffers, a.id = b.id → a = b) :
    (Event.effect s e).Coherent := by
  cases e with
  | opened b => exact h.switchTo (some b)
  | switched b => exact h.switchTo b
  | refreshed b => exact absurd rfl (hrefresh b)
  | edited b edits => exact h.edited edits fun a ha => hone a ha b (by simp [Event.buffers])
  | selected => exact h.armReminder
  | themed name => exact h.changeTheme name
  | checked => exact h.checkKeyword
  | closed => exact h.stopReminder
  | _ => exact h

theorem coherent_run_of_coherent (hone : ∀ b ∈ bs, ∀ b' ∈ bs, b.id = b'.id → b = b') {d : Desk}
    (h : d.session.Coherent) (hactive : ∀ b, d.session.active = some b → b ∈ bs)
    (hes : ∀ e ∈ es, ∀ b ∈ e.buffers, b ∈ bs) (hrefresh : ∀ b, .refreshed b ∉ es) :
    (d.run es).session.Coherent := by
  induction es generalizing d with
  | nil => exact h
  | cons e es ih =>
    have hcore := (step_spec d e).1
    have heffect : (Event.effect d.session e).Coherent := by
      refine h.effect ?_ fun a ha b hb => ?_
      · rintro b rfl
        exact hrefresh b (by simp)
      · exact hone a (hactive a ha) b (hes e (by simp) b hb)
    have hstep : (d.step e).session.Coherent := by
      rw [← coherent_core, hcore, coherent_core]
      exact heffect
    refine ih hstep ?_ (fun e he => hes e (by simp [he])) fun b hb => hrefresh b (by simp [hb])
    intro b hb
    have hkept : (Event.effect d.session e).active = some b := by
      rw [← eq_of_core Session.active hcore, hb]
    rcases active_effect hkept with hb | hb
    · exact hactive b hb
    · exact hes e (by simp) b hb

/-- After every run of events from a new session there is exactly one decoration for each line of the
analysis, in ascending order, at the first column and in the colors of the theme; the import flag says
whether the analysis has lines; the decorated lines are those with a tooltip; and the analysis is that
of the active document, if there is one. -/
theorem shown_of_run (settings : Settings) (notifier : Notifier) (sink : Sink) (identity : Identity)
    (host : Host) (es : List Event) (hrefresh : ∀ b, .refreshed b ∉ es)
    (hone : ∀ b ∈ es.flatMap Event.buffers, ∀ b' ∈ es.flatMap Event.buffers, b.id = b'.id → b = b') :
    let s := (Desk.run ⟨start settings notifier sink identity, host⟩ es).session
    s.decorations.map (·.line) = s.result.lines.map Int.ofNat ∧
      s.decorations.Pairwise (·.line < ·.line) ∧
      (∀ x ∈ s.decorations, x.column = 0 ∧ x.theme = s.theme) ∧
      s.hasImport = s.result.hasImport ∧ (s.hasImport ↔ s.result.lines ≠ []) ∧
      (∀ line t, s.tooltip? line = some t ↔
        t = ⟨Message.hover, line, 0, 1⟩ ∧ ∃ x ∈ s.decorations, x.line = line) ∧
      ∀ b, s.active = some b → s.result = Analysis.ofDocument b.document := by
  intro s
  have h : s.Coherent := by
    refine coherent_run_of_coherent hone (coherent_start settings notifier sink identity) ?_ ?_ hrefresh
    · simp [start]
    · exact fun e he b hb => List.mem_flatMap.mpr ⟨e, he, hb⟩
  have hlines : s.decorations.map (·.line) = s.result.lines.map Int.ofNat := by
    rw [h.decorations_eq, List.map_map]
    rfl
  have hflag : s.hasImport ↔ s.result.lines ≠ [] := by
    rw [h.hasImport_eq, Analysis.hasImport]
    simp
  have hflagged : ∀ line, s.isFlagged line ↔ ∃ x ∈ s.decorations, x.line = line := by
    intro line
    have : (∃ x ∈ s.decorations, x.line = line) ↔ line ∈ s.decorations.map (·.line) := by simp
    rw [this, hlines]
    simp [isFlagged]
  refine ⟨hlines, ?_, ?_, h.hasImport_eq, hflag, ?_, h.result_eq⟩
  · rw [h.decorations_eq]
    exact h.pairwise_lines.map _ fun m n hlt => Int.ofNat_lt.mpr hlt
  · rw [h.decorations_eq]
    intro x hx
    obtain ⟨n, -, rfl⟩ := List.mem_map.mp hx
    exact ⟨rfl, rfl⟩
  · intro line t
    rw [tooltip?, ← hflagged]
    split
    · next hline => simp [hline, eq_comm]
    · next hline => simp [hline]

/-- Two documents take turns, and the theme changes in between; in the end the first one is shown in
the colors of the new theme. -/
theorem shown_of_turns :
    let a : Buffer := ⟨1, { text := "x = 1\nimport os\n".toList, language := "python" }⟩
    let b : Buffer := ⟨2, { text := "x = require('y')".toList, language := "javascript" }⟩
    let es : List Event := [.opened a, .edited b [⟨['\n'], 0⟩], .switched (some b),
      .themed "Light".toList, .switched none, .edited a [], .thanked a 9, .switched (some a)]
    let s := (Desk.run ⟨start {} (.recording false) (.memory fun _ => none) ⟨⟨[], []⟩, none⟩, {}⟩
      es).session
    (∀ b, .refreshed b ∉ es) ∧
      (∀ b ∈ es.flatMap Event.buffers, ∀ b' ∈ es.flatMap Event.buffers, b.id = b'.id → b = b') ∧
      s.theme = .light ∧ s.decorations.map (·.line) = [1] ∧
      s.tooltip? 1 = some ⟨Message.hover, 1, 0, 1⟩ ∧
      s.result = Analysis.ofDocument a.document := by
  intro a b es s
  have hrefresh : ∀ b, .refreshed b ∉ es := by simp [es]
  have hone : ∀ b ∈ es.flatMap Event.buffers, ∀ b' ∈ es.flatMap Event.buffers,
      b.id = b'.id → b = b' := by
    decide +kernel
  obtain ⟨hlines, -, -, -, -, htooltip, hresult⟩ :=
    shown_of_run {} (.recording false) (.memory fun _ => none) ⟨⟨[], []⟩, none⟩ {} es hrefresh hone
  have hactive : s.active = some a := by decide +kernel
  have hfound : s.result.lines = [1] := by decide +kernel
  have hdecorated : s.decorations.map (·.line) = [1] := by
    rw [hlines, hfound]
    rfl
  refine ⟨hrefresh, hone, by decide +kernel, hdecorated, (htooltip 1 _).mpr ⟨rfl, ?_⟩, hresult a hactive⟩
  exact List.mem_map.mp (hdecorated ▸ List.mem_singleton_self 1)

end Session

end Kudos
