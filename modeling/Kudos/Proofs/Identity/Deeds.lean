import Mathlib
import Kudos.Proofs.Identity.Stored
import Kudos.Proofs.Text.Utf16

/-!
# What looking up and counting do

What reaches beyond the program is a list of deeds: a record is handed to a sink, a question is put
to the user, a key is set in the state file. `Does` says which deeds lead from one state of a host to
another, with nothing else done between them. For each action on the identity there is one theorem
that says what it answers, what it does, and what the state file holds afterwards.
-/

namespace Kudos

/-- Something that is done beyond the program. -/
inductive Deed where
  /-- A record is handed to a sink. -/
  | handed (sink : Sink) (collection : Text) (record : Record)
  /-- A question is put to the user. -/
  | asked (notifier : Notifier) (message action : Text)
  /-- A key is set in the state file. -/
  | stored (identity : Identity) (key : Units) (value : Json)

namespace Deed

/-- The host after the deed. -/
def apply (h : Host) : Deed → Host
  | handed sink collection record => sink.submitInBackground collection record h
  | asked notifier message action => ((notifier.offer message action).run h).2
  | stored identity key value => ((identity.update key value).run h).2

/-- The record that is handed over, with its collection. -/
def delivery? : Deed → Option Delivery
  | handed _ collection record => some ⟨collection, record⟩
  | _ => none

/-- Whether a record is handed over. -/
def isHanded : Deed → Bool
  | handed _ _ _ => true
  | _ => false

end Deed

/-- Whether some deeds lead from one state of a host to another, with nothing else done between
them. -/
inductive Does : List Deed → Host → Host → Prop
  | idle {h h' : Host} : h.Idle h' → Does [] h h'
  | deed (d : Deed) (h : Host) : Does [d] h (d.apply h)
  | append {ds ds' : List Deed} {h h' h'' : Host} :
      Does ds h h' → Does ds' h' h'' → Does (ds ++ ds') h h''

/-- The records that are handed over by some deeds. -/
def Deed.deliveries (ds : List Deed) : List Delivery :=
  ds.filterMap Deed.delivery?

namespace Identity

variable {i : Identity} {h h' : Host} {fields : List (Units × Json)} {id : Text} {n : Int}

/-- The user id among stored fields, if there is one. -/
def storedId? (fields : List (Units × Json)) : Option Text :=
  (Fields.get? fields idKey).bind fun v => if v.isTruthy then some v.display else none

/-- The record of a new user. -/
def userRecord (id : Text) (now : Timestamp) : Record :=
  [("userId".toList, .text id), ("timestamp".toList, .time now)]

/-- What is done for a user who is registered: a record is handed to the sink of the identity, if there is
one. -/
def registering (i : Identity) (id : Text) (now : Timestamp) : List Deed :=
  i.sink.toList.map fun sink => .handed sink usersCollection (userRecord id now)

/-- Whether no record that is handed over gets into the state file. -/
def Apart (i : Identity) : Prop :=
  ∀ sink ∈ i.sink, sink.Spares i.path

/-- Setting a key is a deed, after which the state file holds an object with that key set. -/
theorem update_spec (hholds : i.Holds h fields) (key : Units) {value : Json} (hvalue : value.Proper)
    (hfits : Fits h value) :
    ∃ h', (i.update key value).run h = (.ok (), h') ∧ Does [.stored i key value] h h' ∧
      h'.now = h.now ∧ i.Keeps h' (Json.fieldsReread (Fields.set key value fields)) := by
  obtain ⟨h₁, files, hidle, hrun, hkeeps⟩ := run_update_of_holds hholds key hvalue hfits
  have hdeed := Does.deed (.stored i key value) h
  have happly : Deed.apply h (.stored i key value) = { h₁ with files } := congrArg Prod.snd hrun
  rw [happly] at hdeed
  exact ⟨_, hrun, hdeed, hidle.now_eq, hkeeps⟩

theorem now_submitInBackground (sink : Sink) (collection : Text) (record : Record) (h : Host) :
    (sink.submitInBackground collection record h).now = h.now := by
  obtain ⟨_, _, _, _, _, hsubmit⟩ := sink.host_submitInBackground collection record h
  rw [hsubmit]

theorem limits_submitInBackground (sink : Sink) (collection : Text) (record : Record) (h : Host) :
    (sink.submitInBackground collection record h).limits = h.limits := by
  obtain ⟨_, _, _, _, _, hsubmit⟩ := sink.host_submitInBackground collection record h
  rw [hsubmit]
  rfl

/-- Handing over a record is a deed that leaves the state file as it is. -/
theorem keeps_submitInBackground {sink : Sink} (hspares : sink.Spares i.path)
    (hkeeps : i.Keeps h fields) (collection : Text) (record : Record) :
    i.Keeps (sink.submitInBackground collection record h) fields := by
  obtain ⟨bytes, text, hread, hdecode, hjson⟩ := hkeeps
  refine ⟨bytes, text, hspares collection record h bytes hread, hdecode, ?_⟩
  rwa [limits_submitInBackground]

/-! ## The user id -/

theorem length_hex (width n : Nat) : (Text.hex width n).length = width := by
  induction width generalizing n with
  | zero => rfl
  | succ width ih => rw [Text.hex, List.length_append, ih, List.length_singleton]

/-- A new id is stored and registered. -/
theorem run_register (i : Identity) (h : Host) :
    ∃ id h₀, h.Idle h₀ ∧ id ≠ [] ∧
      (userId.register i).run h =
        match (i.update idKey (.ofText id)).run h₀ with
        | (.ok (), h₁) => (.ok id, match i.sink with
          | none => h₁
          | some sink => sink.submitInBackground usersCollection (userRecord id h₁.now) h₁)
        | (.error e, h₁) => (.error e, h₁) := by
  refine ⟨h.freshId.1, h.freshId.2, ⟨_, _, _, _, rfl⟩,
    List.ne_nil_of_length_eq_add_one (length_hex 32 _), ?_⟩
  have hmodify : (modifyGet Host.freshId : Action Text).run h = (.ok h.freshId.1, h.freshId.2) := rfl
  unfold userId.register
  simp only [run_bind, hmodify]
  rcases (i.update idKey (.ofText h.freshId.1)).run h.freshId.2 with ⟨e | x, h₁⟩
  · rfl
  · cases i.sink <;> rfl

/-- What looking up the user id is, given what the state file holds. -/
theorem run_userId (hcontent : i.content h = .ok fields) :
    ∃ h', h.Idle h' ∧ i.userId.run h =
      match storedId? fields with
      | some id => (.ok id, h')
      | none => (userId.register i).run h' := by
  obtain ⟨h', hload, hidle⟩ := run_load i h
  refine ⟨h', hidle, ?_⟩
  unfold userId storedId?
  rw [run_bind, hload, hcontent]
  dsimp only
  cases Fields.get? fields idKey with
  | none => rfl
  | some v =>
    rw [Option.bind_some]
    dsimp only
    split <;> rfl

/-- The answer to a look at the user id. One that is not stored is made, stored and registered. -/
theorem userId_spec (hholds : i.Holds h fields) (hapart : i.Apart) :
    ∃ id h', i.userId.run h = (.ok id, h') ∧
      match storedId? fields with
      | some known => id = known ∧ h.Idle h'
      | none =>
        id ≠ [] ∧ h'.now = h.now ∧
        Does (.stored i idKey (.ofText id) :: i.registering id h.now) h h' ∧
        i.Keeps h' (Json.fieldsReread (Fields.set idKey (.ofText id) fields)) := by
  obtain ⟨h₀, hidle₀, hrun⟩ := run_userId hholds.content
  cases hid : storedId? fields with
  | some known =>
    rw [hid] at hrun
    exact ⟨known, h₀, hrun, rfl, hidle₀⟩
  | none =>
    rw [hid] at hrun
    obtain ⟨id, h₁, hidle₁, hne, hregister⟩ := run_register i h₀
    have hidle := hidle₀.trans hidle₁
    have hproper : (Json.ofText id).Proper := .string _
    obtain ⟨h₂, hupdate, hdoes, hnow, hkeeps⟩ := update_spec
      (hholds.congr hidle.files_eq hidle.limits_eq) idKey hproper (fits_string h₁ _)
    rw [hupdate] at hregister
    have hdoes' := Does.append (.idle hidle) hdoes
    rw [hidle.now_eq] at hnow
    unfold registering
    cases hsink : i.sink with
    | none =>
      simp only [hsink] at hregister
      exact ⟨id, h₂, hrun.trans hregister, hne, hnow, hdoes', hkeeps⟩
    | some sink =>
      simp only [hsink, hnow] at hregister
      refine ⟨id, _, hrun.trans hregister, hne, (now_submitInBackground ..).trans hnow, ?_,
        keeps_submitInBackground (hapart sink hsink) hkeeps _ _⟩
      exact .append hdoes' (.deed (.handed sink usersCollection (userRecord id h.now)) h₂)

/-! ## The counter -/

/-- The counter that may be answered first: the stored one, or a small one if there is none or it is
zero. -/
inductive FirstCounter : Option Json → Counter → Prop
  | stored {n : Int} (hne : n ≠ 0) : FirstCounter (some (.int n)) ⟨n, false⟩
  | storedTrue : FirstCounter (some (.bool true)) ⟨1, true⟩
  | fresh {stored : Option Json} {n : Int} (hint : ∀ k, stored = some (.int k) → k = 0)
      (htrue : stored ≠ some (.bool true)) (hlow : 0 ≤ n) (hhigh : n ≤ 4) : FirstCounter stored ⟨n, false⟩

theorem draw_mem {low high : Int} (hle : low ≤ high) (h : Host) :
    low ≤ (h.draw low high).1 ∧ (h.draw low high).1 ≤ high := by
  have hpos : 0 < high - low + 1 := by omega
  have hnonneg := Int.emod_nonneg (h.chances.headD 0) hpos.ne'
  have hlt := Int.emod_lt_of_pos (h.chances.headD 0) hpos
  have hvalue : (h.draw low high).1 = low + (h.chances.headD 0) % (high - low + 1) := rfl
  omega

theorem loadCounter_spec (hcontent : i.content h = .ok fields) :
    ∃ c h', i.loadCounter.run h = (.ok c, h') ∧ h.Idle h' ∧
      FirstCounter (Fields.get? fields counterKey) c := by
  obtain ⟨h₀, hload, hidle⟩ := run_load i h
  have hdraw := draw_mem (show (0 : Int) ≤ 4 by decide) h₀
  have hfresh : loadCounter.fresh.run h₀ = (.ok ⟨(h₀.draw 0 4).1, false⟩, (h₀.draw 0 4).2) := rfl
  have hidle' : h.Idle (h₀.draw 0 4).2 := hidle.trans ⟨_, _, _, _, rfl⟩
  unfold loadCounter
  rw [run_bind, hload, hcontent]
  dsimp only
  split
  · next n heq =>
    rw [heq]
    split
    · next hne => exact ⟨_, _, rfl, hidle, .stored hne⟩
    · next hzero =>
      have hint : ∀ k, some (Json.int n) = some (.int k) → k = 0 := by
        rintro k ⟨⟩
        exact not_not.mp hzero
      exact ⟨_, _, hfresh, hidle', .fresh hint (by simp) hdraw.1 hdraw.2⟩
  · next heq =>
    rw [heq]
    exact ⟨_, _, rfl, hidle, .storedTrue⟩
  · next hint htrue =>
    exact ⟨_, _, hfresh, hidle', .fresh (fun k hk => absurd hk (hint k)) htrue hdraw.1 hdraw.2⟩

/-- A short counter can be written in decimal digits. -/
def Short (n : Int) : Prop :=
  Number.digitCount n ≤ Number.mostDigits

theorem Short.of_natAbs_le {m : Int} (hn : Short n) (hle : m.natAbs ≤ n.natAbs) : Short m :=
  le_trans (Text.length_ofNat_mono hle) hn

theorem short_of_le (hlow : 0 ≤ n) (hhigh : n ≤ 4) : Short n := by
  have hfour : Short 4 := by
    unfold Short
    decide
  exact hfour.of_natAbs_le (by omega)

theorem short_of_content (hcontent : i.content h = .ok fields)
    (hget : Fields.get? fields counterKey = some (.int n)) : Short n := by
  obtain ⟨l, hl, hall⟩ := Json.within_object_iff.mp (sound_of_content hcontent).2
  have hwithin : (Json.int n).Within l := hall _ (Fields.mem_of_get? hget)
  have hfits : Fits h (.int n) := by
    intro l' hl'
    rw [hl'] at hl
    cases hl
    exact hwithin
  exact fits_int_iff.mp hfits

/-- The counter that is answered first is short, since it has been read or drawn. -/
theorem FirstCounter.short {c : Counter} (hcontent : i.content h = .ok fields)
    (hfirst : FirstCounter (Fields.get? fields counterKey) c) : Short c.value := by
  generalize hstored : Fields.get? fields counterKey = stored at hfirst
  cases hfirst with
  | stored => exact short_of_content hcontent hstored
  | storedTrue => exact short_of_le (by decide) (by decide)
  | fresh _ _ hlow hhigh => exact short_of_le hlow hhigh

theorem saveCounter_spec (hholds : i.Holds h fields) (hshort : Short n) :
    ∃ h', (i.saveCounter n).run h = (.ok (), h') ∧ Does [.stored i counterKey (.int n)] h h' ∧
      h'.now = h.now ∧ i.Keeps h' (Json.fieldsReread (Fields.set counterKey (.int n) fields)) :=
  update_spec hholds counterKey (.int n) (fits_int_iff.mpr hshort)

/-- What counting a message of thanks is: one less, or a new start from zero. -/
theorem run_advanceCounter (hn : 0 ≤ n) (i : Identity) (h : Host) :
    ∃ m h₀, h.Idle h₀ ∧ (n = 0 → 1 ≤ m ∧ m ≤ 4) ∧ (n ≠ 0 → m = n - 1) ∧
      (i.advanceCounter n).run h =
        match (i.saveCounter m).run h₀ with
        | (.ok (), h') => (.ok (m, decide (n = 0)), h')
        | (.error e, h') => (.error e, h') := by
  have hdraw := draw_mem (show (1 : Int) ≤ 4 by decide) h
  unfold advanceCounter
  by_cases hzero : n = 0
  · refine ⟨(h.draw 1 4).1, (h.draw 1 4).2, ⟨_, _, _, _, rfl⟩, fun _ => hdraw, fun hne => absurd hzero hne,
      ?_⟩
    have hmodify : (modifyGet (·.draw 1 4) : Action Int).run h = (.ok (h.draw 1 4).1, (h.draw 1 4).2) :=
      rfl
    rw [if_pos hzero, run_bind, hmodify]
    dsimp only
    rw [run_bind]
    rcases (i.saveCounter (h.draw 1 4).1).run (h.draw 1 4).2 with ⟨e | x, h'⟩
    · rfl
    · simp only [hzero]
      rfl
  · refine ⟨n - 1, h, .refl h, fun heq => absurd heq hzero, fun _ => rfl, ?_⟩
    rw [if_neg hzero, if_pos (by omega), run_bind]
    rcases (i.saveCounter (n - 1)).run h with ⟨e | x, h'⟩
    · rfl
    · simp only [hzero]
      rfl

theorem run_advanceCounter_of_neg (hn : n < 0) (i : Identity) (h : Host) :
    (i.advanceCounter n).run h = (.ok (n, false), h) := by
  unfold advanceCounter
  rw [if_neg (by omega), if_neg (by omega)]
  rfl

/-- The counter that a short one leads to is short. -/
theorem short_of_counted {m : Int} (hn : 0 ≤ n) (hshort : n ≠ 0 → Short n) (hreset : n = 0 → 1 ≤ m ∧ m ≤ 4)
    (hcount : n ≠ 0 → m = n - 1) : Short m := by
  by_cases hzero : n = 0
  · have hdrawn := hreset hzero
    exact short_of_le (by omega) hdrawn.2
  · have hdown := hcount hzero
    exact (hshort hzero).of_natAbs_le (by omega)

theorem advanceCounter_spec (hn : 0 ≤ n) (hshort : Short n) (hholds : i.Holds h fields) :
    ∃ m h', (i.advanceCounter n).run h = (.ok (m, decide (n = 0)), h') ∧
      (n = 0 → 1 ≤ m ∧ m ≤ 4) ∧ (n ≠ 0 → m = n - 1) ∧ Does [.stored i counterKey (.int m)] h h' ∧
      h'.now = h.now ∧ i.Keeps h' (Json.fieldsReread (Fields.set counterKey (.int m) fields)) := by
  obtain ⟨m, h₀, hidle, hreset, hcount, hrun⟩ := run_advanceCounter hn i h
  obtain ⟨h', hsave, hdoes, hnow, hkeeps⟩ := saveCounter_spec (hholds.congr hidle.files_eq hidle.limits_eq)
    (short_of_counted hn (fun _ => hshort) hreset hcount)
  rw [hsave] at hrun
  exact ⟨m, h', hrun, hreset, hcount, .append (.idle hidle) hdoes, hnow.trans hidle.now_eq, hkeeps⟩

end Identity

/-- The time stands still whatever is done. -/
theorem Does.now_eq {ds : List Deed} {h h' : Host} (hdoes : Does ds h h') : h'.now = h.now := by
  induction hdoes with
  | idle hidle => exact hidle.now_eq
  | deed d h =>
    cases d with
    | handed sink collection record => exact Identity.now_submitInBackground ..
    | asked notifier message action =>
      obtain ⟨_, _, _, hoffer⟩ := notifier.host_offer message action h
      rw [Deed.apply, hoffer]
    | stored i key value => exact i.now_update key value h
  | append _ _ ih ih' => exact ih'.trans ih

/-- The limits stay whatever is done. -/
theorem Does.limits_eq {ds : List Deed} {h h' : Host} (hdoes : Does ds h h') : h'.limits = h.limits := by
  induction hdoes with
  | idle hidle => exact hidle.limits_eq
  | deed d h =>
    cases d with
    | handed sink collection record => exact Identity.limits_submitInBackground ..
    | asked notifier message action =>
      obtain ⟨_, _, _, hoffer⟩ := notifier.host_offer message action h
      rw [Deed.apply, hoffer]
      rfl
    | stored i key value => exact i.limits_update key value h
  | append _ _ ih ih' => exact ih'.trans ih

end Kudos
