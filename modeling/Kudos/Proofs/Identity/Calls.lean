import Mathlib
import Kudos.Proofs.Identity.Deeds

/-!
# Calls to the identity

The calls are the type `Identity.Call`. What keeps one from returning is said by `Obstacle`: a state file
that cannot be loaded, or a counter that is too long to be written (`answer_returns_iff`). Calls one after
the other change nothing in the state file but the user id and the counter, agree on the user id, and
register at most one user, whether some of them fail or not (`answers_of_calls`).
-/

namespace Kudos

namespace Json

variable {v : Json}

/-- A value that counts as present is not shown as nothing. -/
theorem display_ne_nil (hproper : v.Proper) (htruthy : v.isTruthy) : v.display ≠ [] := by
  cases hproper with
  | null => simp [isTruthy] at htruthy
  | bool b =>
    cases b with
    | true => simp [display, toShown, Shown.text]
    | false => simp [isTruthy] at htruthy
  | int n =>
    obtain ⟨k, htext, -⟩ := exists_numeral_ofInt n
    obtain ⟨c, tail, hc, -⟩ := k.exists_cons
    have hshown : (int n).display = Text.ofInt n := rfl
    rw [hshown, ← htext, hc]
    simp
  | @real x h =>
    have hshown : (real x).display = x.shortest := rfl
    rw [hshown]
    match x, h with
    | .nan, _ => exact fun hnil => by cases hnil
    | .infinity negative, _ => cases negative <;> exact fun hnil => by cases hnil
    | .finite negative m e, h =>
      obtain ⟨k, htext, -⟩ := Binary64.exists_numeral_shortest (m := m) negative h
      obtain ⟨c, tail, hc, -⟩ := k.exists_cons
      rw [← htext, hc]
      simp
  | string s =>
    have hne : s ≠ [] := by simpa [isTruthy] using htruthy
    exact Utf16.decode_ne_nil hne
  | array h => simp [display, toShown, Shown.text]
  | object hkeys h => simp [display, toShown, Shown.text]

/-- An empty array inside of some others. -/
def nested : Nat → Json
  | 0 => array []
  | n + 1 => array [nested n]

theorem proper_nested (n : Nat) : (nested n).Proper := by
  induction n with
  | zero => exact .array (by simp)
  | succ n ih => exact .array (by simpa using ih)

theorem lt_of_within_nested {l : Limits} {n k : Nat} (h : (nested n).Within l) (hlevels : l.levels = some k) :
    n < k := by
  induction n generalizing l k with
  | zero =>
    obtain ⟨l', hinside, -⟩ := within_array_iff.mp h
    unfold Limits.inside? at hinside
    cases k with
    | zero => simp [hlevels] at hinside
    | succ k => exact Nat.succ_pos k
  | succ n ih =>
    obtain ⟨l', hinside, hall⟩ := within_array_iff.mp h
    unfold Limits.inside? at hinside
    cases k with
    | zero => simp [hlevels] at hinside
    | succ k =>
      simp only [hlevels, Option.some.injEq] at hinside
      exact Nat.succ_lt_succ (ih (hall _ List.mem_cons_self) (hinside ▸ rfl))

end Json

namespace Identity

/-- A call to the identity. -/
inductive Call where
  | userId
  | loadCounter
  | saveCounter (n : Int)
  | advanceCounter (n : Int)
  deriving DecidableEq

/-- The answer to a call. -/
inductive Answer where
  | id (t : Text)
  | counter (c : Counter)
  | saved
  | advanced (n : Int) (due : Bool)

/-- Answers a call. -/
def answer (i : Identity) : Call → Action Answer
  | .userId => return .id (← i.userId)
  | .loadCounter => return .counter (← i.loadCounter)
  | .saveCounter n => do
    i.saveCounter n
    return .saved
  | .advanceCounter n => do
    let (m, due) ← i.advanceCounter n
    return .advanced m due

variable {i : Identity} {h h₀ h' : Host} {fields : List (Units × Json)} {id : Text} {n : Int} {c : Call}
  {fault : Fault} {key : Units} {value : Json}

/-! ## Whether there is an answer -/

/-- Whether the state file can be read and is not UTF-8. -/
def IllFormed (i : Identity) (h : Host) : Prop :=
  ∃ bytes, h.files.read i.path = .ok bytes ∧ Utf8.decode? bytes = none

/-- Whether the state file goes beyond a limit: an integer has too many digits, or it is nested too
deeply. -/
def Oversized (i : Identity) (h : Host) (limit : Overrun) : Prop :=
  ∃ bytes text, h.files.read i.path = .ok bytes ∧ Utf8.decode? bytes = some text ∧
    Json.read h.limits text = .error (.beyond limit)

theorem content_eq_error_iff (i : Identity) (h : Host) : i.content h = .error fault ↔
    fault = .badEncoding ∧ i.IllFormed h ∨ ∃ limit, fault = .beyond limit ∧ i.Oversized h limit := by
  unfold content IllFormed Oversized
  cases h.files.read i.path with
  | error e => simp
  | ok bytes =>
    dsimp only
    cases hdecode : Utf8.decode? bytes with
    | none => simp [hdecode, @eq_comm _ fault]
    | some text =>
      dsimp only
      cases hjson : Json.read h.limits text with
      | error flaw => cases flaw <;> simp [hdecode, hjson, @eq_comm _ fault]
      | ok v => simp [hdecode, hjson]

/-- Whether a call needs the state file: counting does not, from a negative counter. -/
def Call.Reads : Call → Prop
  | .advanceCounter n => 0 ≤ n
  | _ => True

/-- The counter that a call is to save, unless it is drawn. -/
def Call.saves? : Call → Option Int
  | .saveCounter n => some n
  | .advanceCounter n => if 0 < n then some (n - 1) else none
  | _ => none

/-- What keeps a call from returning, with the fault that it raises. -/
inductive Obstacle (i : Identity) (h : Host) (c : Call) : Fault → Prop
  /-- The call needs a state file that is not UTF-8. -/
  | illFormed (hreads : c.Reads) (hfile : i.IllFormed h) : Obstacle i h c .badEncoding
  /-- The call needs a state file that goes beyond a limit. -/
  | oversized {limit : Overrun} (hreads : c.Reads) (hfile : i.Oversized h limit) :
      Obstacle i h c (.beyond limit)
  /-- The call is to save a counter of too many digits where nothing else is in its way. -/
  | long {n : Int} {fields : List (Units × Json)} {made : FileTree} (hsaves : c.saves? = some n)
      (hlong : ¬ Short n) (hcontent : i.content h = .ok fields)
      (hmade : h.files.makeDirectories i.path.parent = .ok made) : Obstacle i h c (.beyond (.digits none))

/-- Whether an answer is no empty id. -/
def Answer.Sensible : Answer → Prop
  | .id t => t ≠ []
  | _ => True

theorem storedId?_ne_nil (hcontent : i.content h = .ok fields) (hid : storedId? fields = some id) :
    id ≠ [] := by
  obtain ⟨v, hv, hshown⟩ := Option.bind_eq_some_iff.mp hid
  cases (sound_of_content hcontent).1 with
  | object hkeys hall =>
    split at hshown
    · next htruthy =>
      rw [← Option.some.inj hshown]
      exact Json.display_ne_nil (hall _ (Fields.mem_of_get? hv)) htruthy
    · cases hshown

theorem reads_of_saves? (hsaves : c.saves? = some n) : c.Reads := by
  cases c with
  | advanceCounter k =>
    unfold Call.saves? at hsaves
    dsimp only at hsaves
    split at hsaves
    · next hpos => exact hpos.le
    · cases hsaves
  | _ => trivial

/-- A counter that cannot be written is not stored, although the directories are made for it. -/
theorem run_save_of_long (hlong : ¬ Short n) (hcontent : i.content h = .ok fields) {made : FileTree}
    (hmade : h.files.makeDirectories i.path.parent = .ok made) :
    ∃ h₁, h.Idle h₁ ∧
      (i.saveCounter n).run h = (.error (.beyond (.digits none)), { h₁ with files := made }) := by
  obtain ⟨h₁, hidle, hrun⟩ := run_update i counterKey (.int n) h
  obtain ⟨l, hl⟩ := Limits.inside?_ofRoom h.room
  have hexcluded : (Limits.ofRoom h.room).excludes (Number.digitCount n) = true := by
    rw [Limits.excludes_ofRoom]
    exact decide_eq_true (not_le.mp hlong)
  have hlimit : (Json.object (Fields.set counterKey (.int n) fields)).overrun? h₁.limits =
      some (.digits none) := by
    rw [hidle.limits_eq, Json.overrun?_object_set (sound_of_content hcontent).2 hl, Json.overrun?,
      Limits.excludes_of_inside? hl, if_pos hexcluded]
  rw [hcontent] at hrun
  exact ⟨h₁, hidle, hrun.trans (run_store_of_overrun (hidle.files_eq ▸ hmade) hlimit counterKey)⟩

/-- What keeps a call from returning is its fault. -/
theorem run_answer_of_obstacle (hobstacle : Obstacle i h c fault) :
    ((i.answer c).run h).1 = .error fault := by
  have loaded : ∀ {h₁ : Host}, c.Reads → i.content h = .error fault → h.Idle h₁ →
      ∃ h₂, i.load.run h₁ = (.error fault, h₂) := by
    intro h₁ _ hcontent hidle
    obtain ⟨h₂, hload, -⟩ := run_load i h₁
    exact ⟨h₂, by rw [hload, content_of_idle hidle, hcontent]⟩
  have unloaded : c.Reads → i.content h = .error fault → ((i.answer c).run h).1 = .error fault := by
    intro hreads hcontent
    cases c with
    | userId =>
      obtain ⟨h₂, hload⟩ := loaded hreads hcontent (.refl h)
      unfold answer userId
      simp only [run_bind, hload]
    | loadCounter =>
      obtain ⟨h₂, hload⟩ := loaded hreads hcontent (.refl h)
      unfold answer loadCounter
      simp only [run_bind, hload]
    | saveCounter n =>
      obtain ⟨h₂, hload⟩ := loaded hreads hcontent (.refl h)
      unfold answer saveCounter update
      simp only [run_bind, hload]
    | advanceCounter n =>
      obtain ⟨m, h₁, hidle, -, -, hrun⟩ := run_advanceCounter hreads i h
      obtain ⟨h₂, hload⟩ := loaded hreads hcontent hidle
      unfold answer
      rw [run_bind, hrun]
      unfold saveCounter update
      simp only [run_bind, hload]
  cases hobstacle with
  | illFormed hreads hfile =>
    exact unloaded hreads ((content_eq_error_iff i h).mpr (.inl ⟨rfl, hfile⟩))
  | oversized hreads hfile =>
    exact unloaded hreads ((content_eq_error_iff i h).mpr (.inr ⟨_, rfl, hfile⟩))
  | @long n fields made hsaves hlong hcontent hmade =>
    cases c with
    | saveCounter k =>
      obtain rfl : k = n := Option.some.inj hsaves
      obtain ⟨h₁, -, hrun⟩ := run_save_of_long hlong hcontent hmade
      unfold answer
      rw [run_bind, hrun]
    | advanceCounter k =>
      have hreads := reads_of_saves? hsaves
      unfold Call.saves? at hsaves
      dsimp only at hsaves
      split at hsaves
      · next hpos =>
        obtain ⟨m, h₁, hidle, -, hdown, hrun⟩ := run_advanceCounter hreads i h
        obtain rfl : m = n := by
          rw [hdown (by omega)]
          exact Option.some.inj hsaves
        obtain ⟨h₂, -, hsave⟩ := run_save_of_long hlong ((content_of_idle hidle).trans hcontent)
          (hidle.files_eq ▸ hmade)
        unfold answer
        rw [run_bind, hrun, hsave]
      · cases hsaves
    | _ => cases hsaves

/-- Setting a key succeeds, if the file can be loaded and the value can be written or is not written at
all. -/
theorem exists_run_update (hcontent : i.content h = .ok fields)
    (hvalue : Fits h value ∨ ∀ made, h.files.makeDirectories i.path.parent ≠ .ok made) (key : Units) :
    ∃ h', (i.update key value).run h = (.ok (), h') := by
  obtain ⟨h₁, hidle, hrun⟩ := run_update i key value h
  rw [hcontent] at hrun
  dsimp only at hrun
  have hstored := stored_run_store i key (Fields.set key value fields) h₁
  rw [hrun]
  generalize (i.store key (Fields.set key value fields)).run h₁ = result at hstored
  obtain ⟨r, h'⟩ := result
  cases hstored with
  | beyond hmade hlimit =>
    rcases hvalue with hfits | hnone
    · have hwithin := within_set (sound_of_content hcontent) hfits key
      rw [hidle.limits_eq, hwithin] at hlimit
      cases hlimit
    · exact absurd (hidle.files_eq ▸ hmade) (hnone _)
  | _ => exact ⟨_, rfl⟩

/-- Where nothing keeps it from returning, a call is answered. -/
theorem exists_answer (hclear : ∀ fault, ¬ Obstacle i h c fault) :
    ∃ a, ((i.answer c).run h).1 = .ok a ∧ a.Sensible := by
  by_cases hreads : c.Reads
  · cases hcontent : i.content h with
    | error fault =>
      rcases (content_eq_error_iff i h).mp hcontent with ⟨rfl, hfile⟩ | ⟨limit, rfl, hfile⟩
      · exact absurd (.illFormed hreads hfile) (hclear _)
      · exact absurd (.oversized hreads hfile) (hclear _)
    | ok fields =>
      -- a counter that is to be saved is short, or nothing can be saved at all
      have saved : ∀ {k h₁}, (c.saves? = some k ∨ Short k) → h.Idle h₁ →
          ∃ h₂, (i.saveCounter k).run h₁ = (.ok (), h₂) := by
        intro k h₁ hk hidle
        refine exists_run_update ((content_of_idle hidle).trans hcontent) ?_ counterKey
        by_cases hshort : Short k
        · exact .inl (fits_int_iff.mpr hshort)
        · refine .inr fun made hmade => ?_
          rw [hidle.files_eq] at hmade
          exact hclear _ (.long (hk.resolve_right hshort) hshort hcontent hmade)
      cases c with
      | userId =>
        obtain ⟨h₁, hidle, hrun⟩ := run_userId hcontent
        unfold answer
        rw [run_bind, hrun]
        cases hid : storedId? fields with
        | some id => exact ⟨.id id, rfl, storedId?_ne_nil hcontent hid⟩
        | none =>
          obtain ⟨id, h₂, hidle', hne, hregister⟩ := run_register i h₁
          have hfits : Fits h₂ (.ofText id) := fits_string h₂ _
          obtain ⟨h₃, hupdate⟩ := exists_run_update ((content_of_idle (hidle.trans hidle')).trans hcontent)
            (.inl hfits) idKey
          rw [hupdate] at hregister
          simp only [hregister]
          exact ⟨.id id, rfl, hne⟩
      | loadCounter =>
        obtain ⟨c, h₁, hrun, -⟩ := loadCounter_spec hcontent
        unfold answer
        rw [run_bind, hrun]
        exact ⟨.counter c, rfl, trivial⟩
      | saveCounter n =>
        obtain ⟨h₁, hrun⟩ := saved (k := n) (.inl rfl) (.refl h)
        unfold answer
        rw [run_bind, hrun]
        exact ⟨.saved, rfl, trivial⟩
      | advanceCounter n =>
        obtain ⟨m, h₁, hidle, hreset, hdown, hrun⟩ := run_advanceCounter hreads i h
        have hm : (Call.advanceCounter n).saves? = some m ∨ Short m := by
          have hn : 0 ≤ n := hreads
          by_cases hzero : n = 0
          · have hdrawn := hreset hzero
            exact .inr (short_of_le (by omega) hdrawn.2)
          · exact .inl ((if_pos (by omega)).trans (congrArg some (hdown hzero).symm))
        obtain ⟨h₂, hsave⟩ := saved hm hidle
        unfold answer
        rw [run_bind, hrun, hsave]
        exact ⟨.advanced m (decide (n = 0)), rfl, trivial⟩
  · cases c with
    | advanceCounter n =>
      unfold answer
      rw [run_bind, run_advanceCounter_of_neg (not_le.mp hreads)]
      exact ⟨.advanced n false, rfl, trivial⟩
    | _ => exact absurd trivial hreads

/-- A call returns exactly if nothing keeps it from that, and an id that it returns is not empty. Otherwise
its fault is that of what is in its way. -/
theorem answer_returns_iff (i : Identity) (h : Host) (c : Call) :
    ((∃ a, ((i.answer c).run h).1 = .ok a ∧ a.Sensible) ↔ ∀ fault, ¬ Obstacle i h c fault) ∧
      ∀ fault, ((i.answer c).run h).1 = .error fault ↔ Obstacle i h c fault := by
  refine ⟨⟨fun ⟨a, ha, _⟩ fault hobstacle => ?_, exists_answer⟩, fun fault => ⟨fun hfault => ?_,
    run_answer_of_obstacle⟩⟩
  · rw [run_answer_of_obstacle hobstacle] at ha
    cases ha
  · by_contra hnone
    by_cases hclear : ∀ other, ¬ Obstacle i h c other
    · obtain ⟨a, ha, -⟩ := exists_answer hclear
      rw [hfault] at ha
      cases ha
    · push Not at hclear
      obtain ⟨other, hother⟩ := hclear
      rw [run_answer_of_obstacle hother] at hfault
      cases hfault
      exact hnone hother

/-- Not every call returns: a state file with the single byte FF stops a look at the user id. -/
theorem exists_call_without_answer :
    ¬ ∀ (i : Identity) (h : Host) (c : Call), ∃ a, ((i.answer c).run h).1 = .ok a := by
  intro hall
  have hfile : (Identity.mk ⟨[], ["state.json".toList]⟩ none).IllFormed
      { files := { entries := [(["state.json".toList], .file [0xFF])] } } := ⟨[0xFF], rfl, rfl⟩
  obtain ⟨a, ha⟩ := hall ⟨⟨[], ["state.json".toList]⟩, none⟩
    { files := { entries := [(["state.json".toList], .file [0xFF])] } } .userId
  rw [run_answer_of_obstacle (.illFormed (c := .userId) trivial hfile)] at ha
  cases ha

/-! ## Calls one after the other -/

/-- Whether the state file holds an object with some fields, or nothing is at its place and there are
none. -/
def Contents (i : Identity) (h : Host) (fields : List (Units × Json)) : Prop :=
  h.files.Vacant i.path ∧ fields = [] ∨ i.Keeps h fields

theorem Contents.congr (hcontents : i.Contents h fields) (hfiles : h'.files = h.files)
    (hlimits : h'.limits = h.limits) : i.Contents h' fields :=
  hcontents.imp (fun ⟨hvacant, hnil⟩ => ⟨hfiles ▸ hvacant, hnil⟩) fun hkeeps => hkeeps.congr hfiles hlimits

theorem Contents.holds (hcontents : i.Contents h fields) : i.Holds h fields := by
  rcases hcontents with ⟨hvacant, rfl⟩ | hkeeps
  · refine ⟨hvacant.storable, ?_⟩
    unfold Identity.content
    cases hread : h.files.read i.path with
    | error e => rfl
    | ok bytes => exact absurd hread (hvacant.read_ne bytes)
  · exact hkeeps.holds

/-- The directories can be made, which leaves the state file as it is. -/
theorem Contents.exists_made (hcontents : i.Contents h fields) :
    ∃ made, h.files.makeDirectories i.path.parent = .ok made ∧
      ∀ h' : Host, h'.files = made → h'.limits = h.limits → i.Contents h' fields := by
  rcases hcontents with ⟨hvacant, rfl⟩ | ⟨bytes, text, hread, hdecode, hjson⟩
  · have ⟨made, _, hmade, _⟩ := hvacant
    refine ⟨made, hmade, ?_⟩
    rintro h' rfl -
    exact .inl ⟨hvacant.of_made hmade, rfl⟩
  · refine ⟨h.files, FileTree.makeDirectories_of_read hread, fun h' hfiles hlimits => .inr ?_⟩
    exact Keeps.congr ⟨bytes, text, hread, hdecode, hjson⟩ hfiles hlimits

/-- Whether later fields are the earlier ones, apart from the user id and the counter, which may have
changed or been added at the end. -/
structure Extends (fields fields' : List (Units × Json)) : Prop where
  keys : ∃ added, fields'.map (·.1) = fields.map (·.1) ++ added ∧
    ∀ k ∈ added, k = idKey ∨ k = counterKey
  values : ∀ k, k ≠ idKey → k ≠ counterKey → Fields.get? fields' k = Fields.get? fields k

theorem Extends.refl (fields : List (Units × Json)) : Extends fields fields :=
  ⟨⟨[], by simp, by simp⟩, fun _ _ _ => rfl⟩

theorem Extends.trans {fields fields' fields'' : List (Units × Json)} (h₁ : Extends fields fields')
    (h₂ : Extends fields' fields'') : Extends fields fields'' := by
  obtain ⟨⟨added, hkeys, hadded⟩, hvalues⟩ := h₁
  obtain ⟨⟨added', hkeys', hadded'⟩, hvalues'⟩ := h₂
  refine ⟨⟨added ++ added', by rw [hkeys', hkeys, List.append_assoc], fun k hk => ?_⟩,
    fun k hid hcounter => (hvalues' k hid hcounter).trans (hvalues k hid hcounter)⟩
  exact (List.mem_append.mp hk).elim (hadded k) (hadded' k)

theorem extends_set {key : Units} (hkey : key = idKey ∨ key = counterKey) (value : Json)
    (fields : List (Units × Json)) : Extends fields (Fields.set key value fields) := by
  refine ⟨?_, fun k hid hcounter => Fields.get?_set_of_ne ?_ value fields⟩
  · rw [Fields.map_fst_set]
    split
    · exact ⟨[], by simp, by simp⟩
    · exact ⟨[key], rfl, by simpa using hkey⟩
  · rcases hkey with rfl | rfl
    · exact hid
    · exact hcounter

/-- The reply to a call: an answer or a fault. -/
abbrev Reply := Except Fault Answer

/-- The replies to calls one after the other, which go on when one of them fails. -/
def replies (i : Identity) : List Call → Host → List Reply × Host
  | [], h => ([], h)
  | c :: calls, h =>
    let (r, h') := (i.answer c).run h
    let (rs, h'') := i.replies calls h'
    (r :: rs, h'')

/-- The counter that a call has saved. -/
def saved? : Call × Reply → Option Int
  | (.saveCounter n, .ok _) => some n
  | (.advanceCounter n, .ok (.advanced m _)) => if 0 ≤ n then some m else none
  | _ => none

/-- Whether a call is to save a counter of too many digits. -/
def Call.Long (c : Call) : Prop :=
  ∃ n, c.saves? = some n ∧ ¬ Short n

/-- Whether between two states of a host just some records are handed over, while the user id and the
counter may be stored. -/
def Hands (i : Identity) (handed : List Deed) (h h' : Host) : Prop :=
  ∃ ds, Does ds h h' ∧ ds.filter Deed.isHanded = handed ∧
    ∀ d ∈ ds, d.isHanded ∨ ∃ value, d = .stored i idKey value ∨ d = .stored i counterKey value

theorem hands_of_idle (hidle : h.Idle h') : i.Hands [] h h' :=
  ⟨[], .idle hidle, rfl, by simp⟩

theorem hands_of_saved (hdoes : Does [.stored i counterKey value] h h') : i.Hands [] h h' :=
  ⟨_, hdoes, rfl, by simp⟩

theorem hands_of_registered
    (hdoes : Does (.stored i idKey value :: i.registering id h.now) h h') :
    i.Hands (i.registering id h.now) h h' := by
  refine ⟨_, hdoes, ?_, ?_⟩
  · unfold registering
    cases i.sink <;> rfl
  · unfold registering
    cases i.sink <;> simp [Deed.isHanded]

theorem Hands.append {handed handed' : List Deed} (h₁ : i.Hands handed h h₀) (h₂ : i.Hands handed' h₀ h') :
    i.Hands (handed ++ handed') h h' := by
  obtain ⟨ds, hdoes, rfl, hall⟩ := h₁
  obtain ⟨ds', hdoes', rfl, hall'⟩ := h₂
  refine ⟨ds ++ ds', .append hdoes hdoes', List.filter_append .., fun d hd => ?_⟩
  exact (List.mem_append.mp hd).elim (hall d) (hall' d)

/-- What one call does, whether it is answered or fails. -/
structure Step (i : Identity) (h : Host) (fields : List (Units × Json)) (c : Call) (r : Reply)
    (h' : Host) (fields' : List (Units × Json)) : Prop where
  contents : i.Contents h' fields'
  whole : ∀ f ∈ fields', f.2.Whole
  kept : Extends fields fields'
  counter : Fields.get? fields' counterKey =
    match saved? (c, r) with
    | some n => some (.int n)
    | none => Fields.get? fields counterKey
  error_iff : ∀ fault, r = .error fault ↔ fault = .beyond (.digits none) ∧ c.Long
  id : c = .userId → ∃ id, r = .ok (.id id) ∧ storedId? fields' = some id
  sameId : c ≠ .userId ∨ storedId? fields ≠ none → storedId? fields' = storedId? fields
  now : h'.now = h.now
  hands : i.Hands (if c = .userId ∧ storedId? fields = none then
    i.registering ((storedId? fields').getD []) h.now else []) h h'

theorem storedId?_set_counter (value : Json) (fields : List (Units × Json)) :
    storedId? (Fields.set counterKey value fields) = storedId? fields := by
  unfold storedId?
  rw [Fields.get?_set_of_ne (by decide)]

theorem storedId?_set_id (hid : id ≠ []) (fields : List (Units × Json)) :
    storedId? (Fields.set idKey (.ofText id) fields) = some id := by
  have htruthy : (Json.ofText id).isTruthy := by
    simpa [Json.ofText, Json.isTruthy] using Utf16.encode_ne_nil hid
  have hshown : (Json.ofText id).display = id := Utf16.decode_encode id
  unfold storedId?
  rw [Fields.get?_set_self, Option.bind_some, if_pos htruthy, hshown]

theorem whole_set {value : Json} (hwhole : ∀ f ∈ fields, f.2.Whole) (hvalue : value.Whole)
    (key : Units) : ∀ f ∈ Fields.set key value fields, f.2.Whole := by
  intro f hf
  rcases Fields.eq_or_mem_of_mem_set hf with rfl | hf
  · exact hvalue
  · exact hwhole f hf

theorem fieldsReread_of_whole (hwhole : ∀ f ∈ fields, f.2.Whole) :
    Json.fieldsReread fields = fields :=
  Json.object.inj (Json.Whole.object hwhole).reread_eq

/-- A call that only looks. -/
theorem step_of_idle {a : Answer} (hcontents : i.Contents h fields) (hwhole : ∀ f ∈ fields, f.2.Whole)
    (hidle : h.Idle h') (hsaved : saved? (c, .ok a) = none) (hsaves : c.saves? = none)
    (hid : c = .userId → ∃ id, a = .id id ∧ storedId? fields = some id) :
    Step i h fields c (.ok a) h' fields where
  contents := hcontents.congr hidle.files_eq hidle.limits_eq
  whole := hwhole
  kept := .refl fields
  counter := by rw [hsaved]
  error_iff := by simp [Call.Long, hsaves]
  id := fun hc => by
    obtain ⟨id, rfl, hstored⟩ := hid hc
    exact ⟨id, rfl, hstored⟩
  sameId := fun _ => rfl
  now := hidle.now_eq
  hands := by
    rw [if_neg]
    · exact hands_of_idle hidle
    · rintro ⟨hc, hnone⟩
      obtain ⟨id, -, hstored⟩ := hid hc
      rw [hstored] at hnone
      cases hnone

/-- A call that has saved a counter. -/
theorem step_of_saved {a : Answer} (hwhole : ∀ f ∈ fields, f.2.Whole)
    (hkeeps : i.Keeps h' (Json.fieldsReread (Fields.set counterKey (.int n) fields)))
    (hdoes : Does [.stored i counterKey (.int n)] h h') (hnow : h'.now = h.now)
    (hsaved : saved? (c, .ok a) = some n) (hc : c ≠ .userId) (hlong : ¬ c.Long) :
    Step i h fields c (.ok a) h' (Fields.set counterKey (.int n) fields) := by
  have hwhole' := whole_set hwhole (.int n) counterKey
  rw [fieldsReread_of_whole hwhole'] at hkeeps
  exact {
    contents := .inr hkeeps
    whole := hwhole'
    kept := extends_set (.inr rfl) _ _
    counter := by rw [hsaved, Fields.get?_set_self]
    error_iff := by simp [hlong]
    id := fun heq => absurd heq hc
    sameId := fun _ => storedId?_set_counter _ _
    now := hnow
    hands := by
      rw [if_neg fun hnew => hc hnew.1]
      exact hands_of_saved hdoes }

/-- A call that fails because its counter is too long. -/
theorem step_of_long (hcontents : i.Contents h' fields) (hwhole : ∀ f ∈ fields, f.2.Whole)
    (hdoes : Does [.stored i counterKey (.int n)] h h') (hnow : h'.now = h.now) (hc : c ≠ .userId)
    (hlong : c.Long) : Step i h fields c (.error (.beyond (.digits none))) h' fields where
  contents := hcontents
  whole := hwhole
  kept := .refl fields
  counter := by cases c <;> rfl
  error_iff := by simp [hlong, eq_comm]
  id := fun heq => absurd heq hc
  sameId := fun _ => rfl
  now := hnow
  hands := by
    rw [if_neg fun hnew => hc hnew.1]
    exact hands_of_saved hdoes

/-- A call that registers a new user. -/
theorem step_of_registered (hwhole : ∀ f ∈ fields, f.2.Whole) (hid : storedId? fields = none)
    (hne : id ≠ []) (hkeeps : i.Keeps h' (Json.fieldsReread (Fields.set idKey (.ofText id) fields)))
    (hdoes : Does (.stored i idKey (.ofText id) :: i.registering id h.now) h h') (hnow : h'.now = h.now) :
    Step i h fields .userId (.ok (.id id)) h' (Fields.set idKey (.ofText id) fields) := by
  have hwhole' := whole_set hwhole (Json.Whole.string (Utf16.encode id)) idKey
  have hkeeps' : i.Keeps h' (Fields.set idKey (.ofText id) fields) := fieldsReread_of_whole hwhole' ▸ hkeeps
  exact {
    contents := .inr hkeeps'
    whole := hwhole'
    kept := extends_set (.inl rfl) _ _
    counter := Fields.get?_set_of_ne (by decide) _ _
    error_iff := by simp [Call.Long, Call.saves?]
    id := fun _ => ⟨id, rfl, storedId?_set_id hne fields⟩
    sameId := fun hor => absurd hid (hor.resolve_left fun hc => hc rfl)
    now := hnow
    hands := by
      rw [if_pos ⟨rfl, hid⟩, storedId?_set_id hne]
      exact hands_of_registered hdoes }

/-- A call that saves a counter, after nothing has been done before that. -/
theorem exists_step_of_save {a : Answer} (hcontents : i.Contents h fields) (hwhole : ∀ f ∈ fields, f.2.Whole)
    (hidle : h.Idle h₀) (hsaved : saved? (c, .ok a) = some n) (hc : c ≠ .userId)
    (hlong : c.Long ↔ ¬ Short n) (hrun : (i.answer c).run h =
      match (i.saveCounter n).run h₀ with
      | (.ok (), h') => (.ok a, h')
      | (.error e, h') => (.error e, h')) :
    ∃ r h' fields', (i.answer c).run h = (r, h') ∧ Step i h fields c r h' fields' := by
  have hcontents₀ := hcontents.congr hidle.files_eq hidle.limits_eq
  by_cases hshort : Short n
  · obtain ⟨h', hsave, hdoes, hnow, hkeeps⟩ := saveCounter_spec hcontents₀.holds hshort
    rw [hsave] at hrun
    exact ⟨_, h', _, hrun, step_of_saved hwhole hkeeps (.append (.idle hidle) hdoes)
      (hnow.trans hidle.now_eq) hsaved hc (mt hlong.mp (not_not.mpr hshort))⟩
  · obtain ⟨made, hmade, hkept⟩ := hcontents₀.exists_made
    obtain ⟨h₁, hidle₁, hsave⟩ := run_save_of_long hshort hcontents₀.holds.content hmade
    have hdeed := Does.deed (.stored i counterKey (.int n)) h₀
    have happly : Deed.apply h₀ (.stored i counterKey (.int n)) = { h₁ with files := made } :=
      congrArg Prod.snd hsave
    rw [happly] at hdeed
    rw [hsave] at hrun
    exact ⟨_, _, fields, hrun, step_of_long (hkept _ rfl hidle₁.limits_eq) hwhole
      (.append (.idle hidle) hdeed) ((hidle.trans hidle₁).now_eq) hc (hlong.mpr hshort)⟩

theorem exists_step (hapart : i.Apart) (hcontents : i.Contents h fields)
    (hwhole : ∀ f ∈ fields, f.2.Whole) (c : Call) :
    ∃ r h' fields', (i.answer c).run h = (r, h') ∧ Step i h fields c r h' fields' := by
  have hholds := hcontents.holds
  cases c with
  | userId =>
    obtain ⟨id, h', hrun, hspec⟩ := userId_spec hholds hapart
    refine ⟨.ok (.id id), h', ?_⟩
    have hanswer : (i.answer .userId).run h = (.ok (.id id), h') := by
      unfold answer
      rw [run_bind, hrun]
      rfl
    cases hid : storedId? fields with
    | some known =>
      rw [hid] at hspec
      obtain ⟨rfl, hidle⟩ := hspec
      exact ⟨fields, hanswer, step_of_idle hcontents hwhole hidle rfl rfl fun _ => ⟨id, rfl, hid⟩⟩
    | none =>
      rw [hid] at hspec
      obtain ⟨hne, hnow, hdoes, hkeeps⟩ := hspec
      exact ⟨_, hanswer, step_of_registered hwhole hid hne hkeeps hdoes hnow⟩
  | loadCounter =>
    obtain ⟨c, h', hrun, hidle, -⟩ := loadCounter_spec hholds.content
    refine ⟨.ok (.counter c), h', fields, ?_,
      step_of_idle hcontents hwhole hidle rfl rfl fun heq => by cases heq⟩
    unfold answer
    rw [run_bind, hrun]
    rfl
  | saveCounter n =>
    refine exists_step_of_save (a := .saved) hcontents hwhole (.refl h) rfl (by simp)
      (by simp [Call.Long, Call.saves?]) ?_
    unfold answer
    rw [run_bind]
    rcases (i.saveCounter n).run h with ⟨e | x, h'⟩ <;> rfl
  | advanceCounter n =>
    by_cases hn : 0 ≤ n
    · obtain ⟨m, h₀, hidle, hreset, hdown, hrun⟩ := run_advanceCounter hn i h
      have hlong : (Call.advanceCounter n).Long ↔ ¬ Short m := by
        by_cases hzero : n = 0
        · have hdrawn := hreset hzero
          simp [Call.Long, Call.saves?, hzero, short_of_le (show 0 ≤ m by omega) hdrawn.2]
        · have hpos : 0 < n := by omega
          simp [Call.Long, Call.saves?, hpos, hdown hzero]
      refine exists_step_of_save (a := .advanced m (decide (n = 0))) hcontents hwhole hidle (if_pos hn)
        (by simp) hlong ?_
      unfold answer
      rw [run_bind, hrun]
      rcases (i.saveCounter m).run h₀ with ⟨e | x, h'⟩ <;> rfl
    · refine ⟨.ok (.advanced n false), h, fields, ?_,
        step_of_idle hcontents hwhole (.refl h) (if_neg hn) (if_neg (by omega)) fun heq => by cases heq⟩
      unfold answer
      rw [run_bind, run_advanceCounter_of_neg (not_le.mp hn)]
      rfl

/-- What is replied to a call: a fault exactly if it is to save a counter of too many digits, and to the
question for the user id always the same. -/
structure Replied (id : Text) (c : Call) (r : Reply) : Prop where
  error_iff : ∀ fault, r = .error fault ↔ fault = .beyond (.digits none) ∧ c.Long
  id : c = .userId → r = .ok (.id id)

/-- Each call is answered, unless it is to save a counter of too many digits. The state file keeps all other
keys with their values, its counter is the one that was saved last, all answers to the question for the
user id agree, and a user is registered only if the id was not there and is asked for, and then once, by
one record that is handed to the sink of the identity. -/
theorem answers_of_calls (hapart : i.Apart) (hcontents : i.Contents h fields)
    (hwhole : ∀ f ∈ fields, f.2.Whole) (calls : List Call) :
    ∃ rs h' fields' id, i.replies calls h = (rs, h') ∧ List.Forall₂ (Replied id) calls rs ∧
      (∀ known, storedId? fields = some known → id = known) ∧
      i.Contents h' fields' ∧ Extends fields fields' ∧
      Fields.get? fields' counterKey =
        (match ((calls.zip rs).filterMap saved?).getLast? with
        | some n => some (.int n)
        | none => Fields.get? fields counterKey) ∧
      i.Hands (if .userId ∈ calls ∧ storedId? fields = none then i.registering id h.now else []) h h' := by
  -- without calls any id would do, but it has to be the stored one if there is one: that is what joins
  -- the id of the first call to that of the others
  induction calls generalizing h fields with
  | nil =>
    refine ⟨[], h, fields, (storedId? fields).getD [], rfl, .nil, fun known hknown => by rw [hknown]; rfl,
      hcontents, .refl fields, rfl, ?_⟩
    rw [if_neg (by simp)]
    exact hands_of_idle (.refl h)
  | cons c calls ih =>
    obtain ⟨r, h₁, fields₁, hrun, hstep⟩ := exists_step hapart hcontents hwhole c
    obtain ⟨rs, h', fields', id, hrun', hreplied, hknown, hcontents', hextends, hcounter, hhands⟩ :=
      ih hstep.contents hstep.whole
    refine ⟨r :: rs, h', fields', id, ?_, .cons ⟨hstep.error_iff, fun hc => ?_⟩ hreplied, ?_, hcontents',
      hstep.kept.trans hextends, ?_, ?_⟩
    · unfold replies
      rw [hrun]
      dsimp only
      rw [hrun']
    · obtain ⟨t, ht, hstored⟩ := hstep.id hc
      rw [ht, hknown t hstored]
    · intro known hstored
      refine hknown known ?_
      rw [hstep.sameId (.inr (by simp [hstored])), hstored]
    · rw [hcounter, hstep.counter, List.zip_cons_cons, List.filterMap_cons]
      cases hsaved : saved? (c, r) with
      | none => rfl
      | some n =>
        dsimp only
        rw [List.getLast?_cons]
        cases ((calls.zip rs).filterMap saved?).getLast? <;> rfl
    · have happended := hstep.hands.append hhands
      rw [hstep.now] at happended
      by_cases hc : c = .userId
      · obtain ⟨t, -, hstored⟩ := hstep.id hc
        have hid := hknown t hstored
        simpa [hc, hstored, hid] using happended
      · rw [hstep.sameId (.inl hc)] at happended
        simpa [hc, Ne.symm hc] using happended

/-- Not every call is answered although the state file holds an object: the id that is stored beside very
many arrays inside of each other is not answered, and a very long counter is not saved. -/
theorem exists_call_beyond_limits :
    let i : Identity := ⟨⟨[], ["state.json".toList]⟩, some (.memory fun _ => none)⟩
    let fields : List (Units × Json) := [(idKey, .ofText ['u']), (Utf16.encode ['x'], .nested 3000)]
    let file := FileNode.file (Utf8.encode ((Json.object fields).write .compact))
    let h : Host := { files := { entries := [(["state.json".toList], file)] } }
    (∃ limit, ((i.answer .userId).run h).1 = .error (.beyond limit)) ∧
      ((i.answer (.saveCounter (10 ^ Number.mostDigits))).run {}).1 = .error (.beyond (.digits none)) := by
  intro i fields file h
  constructor
  · have hproper : (Json.object fields).Proper := by
      refine .object (by decide) fun f hf => ?_
      rcases List.mem_pair.mp hf with rfl | rfl
      · exact .string _
      · exact Json.proper_nested 3000
    have hbeyond : ¬ (Json.object fields).Within h.limits := by
      intro hwithin
      obtain ⟨l, hinside, hall⟩ := Json.within_object_iff.mp hwithin
      have hnested := hall _ (List.mem_cons_of_mem _ List.mem_cons_self)
      have hlevels : l.levels = some 980 := by
        cases hinside
        rfl
      exact absurd (Json.lt_of_within_nested hnested hlevels) (by decide)
    obtain ⟨limit, hread⟩ := Json.read_write_eq_beyond hproper hbeyond .compact
    exact ⟨limit, run_answer_of_obstacle (.oversized trivial ⟨_, _, rfl, Utf8.decode?_encode _, hread⟩)⟩
  · have hlong : ¬ Short (10 ^ Number.mostDigits) := not_le.mpr (Number.lt_digitCount_pow (by decide))
    exact run_answer_of_obstacle (.long (c := .saveCounter _) rfl hlong rfl rfl)

/-- A file without id and counter, with a counter in between that is too long: the user is registered once,
and the counter comes last. -/
theorem answers_of_four_calls :
    let i : Identity := ⟨⟨[], ["state.json".toList]⟩, some (.memory fun _ => none)⟩
    let fields : List (Units × Json) := [(Utf16.encode ['a'], .array [.int 1, .string [0xE9]])]
    let file := FileNode.file (Utf8.encode ((Json.object fields).write .compact))
    let h : Host := { files := { entries := [(["state.json".toList], file)] } }
    let calls : List Call := [.userId, .saveCounter (10 ^ Number.mostDigits), .userId, .advanceCounter 3]
    ∃ rs h' fields' id, i.replies calls h = (rs, h') ∧ List.Forall₂ (Replied id) calls rs ∧
      i.Contents h' fields' ∧ Extends fields fields' ∧
      i.Hands [.handed (.memory fun _ => none) usersCollection (userRecord id h.now)] h h' := by
  intro i fields file h calls
  have hapart : i.Apart := by
    rintro sink ⟨⟩
    exact Sink.spares_memory _ _
  have hwhole : ∀ f ∈ fields, f.2.Whole := by
    intro f hf
    obtain rfl := List.mem_singleton.mp hf
    refine .array fun v hv => ?_
    rcases List.mem_pair.mp hv with rfl | rfl
    · exact .int 1
    · exact .string _
  have hread : h.files.read i.path = .ok (Utf8.encode ((Json.object fields).write .compact)) := rfl
  have hproper : (Json.object fields).Proper := by
    refine .object (List.nodup_singleton _) fun f hf => ?_
    obtain rfl := List.mem_singleton.mp hf
    refine .array fun v hv => ?_
    rcases List.mem_pair.mp hv with rfl | rfl
    · exact .int 1
    · exact .string _
  have hjson := Json.read_write (l := h.limits) hproper (by decide) .compact
  rw [(Json.Whole.object hwhole).reread_eq] at hjson
  obtain ⟨rs, h', fields', id, hrun, hreplied, -, hcontents, hextends, -, hhands⟩ :=
    answers_of_calls hapart (.inr ⟨_, _, hread, Utf8.decode?_encode _, hjson⟩) hwhole calls
  refine ⟨rs, h', fields', id, hrun, hreplied, hcontents, hextends, ?_⟩
  rw [if_pos ⟨List.mem_cons_self, rfl⟩] at hhands
  exact hhands

end Identity

end Kudos
