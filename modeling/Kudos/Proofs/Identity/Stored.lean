import Mathlib
import Kudos.Proofs.Files.Storable
import Kudos.Proofs.Json.RoundTrip
import Kudos.Proofs.Notifier
import Kudos.Proofs.Text.Utf8

/-!
# The state file

What the state file is taken to hold is said by `Identity.content`: some fields, or the fault of a file
that cannot be loaded. Reading the file answers just that (`run_load`). Writing fields ends in one of four
ways (`Stored`); where the file can be stored and the fields keep within the limits, it then holds them
(`run_update_of_holds`).
-/

namespace Kudos

/-- Whether between two states of a host nothing was done that reaches beyond the program: no more
than that random numbers were drawn, ids were made, or warnings were logged. -/
def Host.Idle (h h' : Host) : Prop :=
  ∃ chances draws lastId warnings, h' = { h with chances, draws, lastId, warnings }

theorem Host.Idle.refl (h : Host) : h.Idle h :=
  ⟨_, _, _, _, rfl⟩

theorem Host.Idle.trans {h h' h'' : Host} (h₁ : h.Idle h') (h₂ : h'.Idle h'') : h.Idle h'' := by
  obtain ⟨_, _, _, _, rfl⟩ := h₁
  obtain ⟨chances, draws, lastId, warnings, rfl⟩ := h₂
  exact ⟨chances, draws, lastId, warnings, rfl⟩

theorem Host.Idle.files_eq {h h' : Host} (hidle : h.Idle h') : h'.files = h.files := by
  obtain ⟨_, _, _, _, rfl⟩ := hidle
  rfl

theorem Host.Idle.limits_eq {h h' : Host} (hidle : h.Idle h') : h'.limits = h.limits := by
  obtain ⟨_, _, _, _, rfl⟩ := hidle
  rfl

theorem Host.Idle.now_eq {h h' : Host} (hidle : h.Idle h') : h'.now = h.now := by
  obtain ⟨_, _, _, _, rfl⟩ := hidle
  rfl

theorem Host.idle_warn (h : Host) (w : Warning) : h.Idle (h.warn w) :=
  ⟨_, _, _, _, rfl⟩

namespace Identity

variable {i : Identity} {h h' : Host} {key : Units} {value : Json} {n : Int}
variable {fields : List (Units × Json)} {fault : Fault}

/-- What the state file is taken to hold. A file that cannot be read and one that holds no object count
as empty; one that is not UTF-8 and one that goes beyond a limit are faults. -/
def content (i : Identity) (h : Host) : Except Fault (List (Units × Json)) :=
  match h.files.read i.path with
  | .error _ => .ok []
  | .ok bytes =>
    match Utf8.decode? bytes with
    | none => .error .badEncoding
    | some text =>
      match Json.read h.limits text with
      | .error .malformed => .ok []
      | .error (.beyond limit) => .error (.beyond limit)
      | .ok v => .ok (v.fields?.getD [])

theorem content_congr (hfiles : h'.files = h.files) (hlimits : h'.limits = h.limits) :
    i.content h' = i.content h := by
  unfold content
  rw [hfiles, hlimits]

theorem content_of_idle (hidle : h.Idle h') : i.content h' = i.content h :=
  content_congr hidle.files_eq hidle.limits_eq

theorem sound_empty (h : Host) : (Json.object []).Sound h.limits := by
  obtain ⟨l, hl⟩ := Limits.inside?_ofRoom h.room
  exact Json.sound_object hl List.nodup_nil (by simp)

/-- What the file is taken to hold can be written and read again. -/
theorem sound_of_content (hcontent : i.content h = .ok fields) :
    (Json.object fields).Sound h.limits := by
  unfold content at hcontent
  split at hcontent
  · cases hcontent
    exact sound_empty h
  · split at hcontent
    · cases hcontent
    · split at hcontent
      · cases hcontent
        exact sound_empty h
      · cases hcontent
      · next v hread =>
        have hsound := Json.sound_of_read hread
        cases hcontent
        cases v with
        | object fields => exact hsound
        | _ => exact sound_empty h

/-! ## Reading -/

theorem run_load (i : Identity) (h : Host) :
    ∃ h', i.load.run h = (i.content h, h') ∧ h.Idle h' := by
  unfold load content
  rw [run_bind]
  show ∃ h', (if !h.files.contains i.path then pure [] else _ : Action (List (Units × Json))).run h = _ ∧ _
  cases hread : h.files.read i.path with
  | error e =>
    by_cases hthere : h.files.contains i.path
    · simp only [hthere]
      exact ⟨_, rfl, h.idle_warn _⟩
    · simp only [hthere]
      exact ⟨h, rfl, .refl h⟩
  | ok bytes =>
    simp only [FileTree.contains_of_read hread]
    cases Utf8.decode? bytes with
    | none => exact ⟨h, rfl, .refl h⟩
    | some text =>
      dsimp only
      cases hjson : Json.read h.limits text with
      | error flaw =>
        cases flaw with
        | malformed => exact ⟨_, rfl, h.idle_warn .stateUnreadable⟩
        | beyond limit => exact ⟨h, rfl, .refl h⟩
      | ok v => exact ⟨h, rfl, .refl h⟩

/-! ## Writing -/

/-- How writing fields ends. -/
inductive Stored (i : Identity) (key : Units) (fields : List (Units × Json)) (h : Host) :
    Except Fault Unit → Host → Prop
  /-- There is no directory, and this is logged. -/
  | adrift {e : FileError} (hmade : h.files.makeDirectories i.path.parent = .error e) :
      Stored i key fields h (.ok ()) (h.warn (.stateNotStored (Utf16.decode key)))
  /-- The fields go beyond a limit. -/
  | beyond {made : FileTree} {limit : Overrun} (hmade : h.files.makeDirectories i.path.parent = .ok made)
      (hlimit : (Json.object fields).overrun? h.limits = some limit) :
      Stored i key fields h (.error (.beyond limit)) { h with files := made }
  /-- The file cannot be written, and this is logged. -/
  | refused {made : FileTree} {e : FileError} (hmade : h.files.makeDirectories i.path.parent = .ok made)
      (hwithin : (Json.object fields).Within h.limits)
      (hwrite : made.write i.path (Utf8.encode ((Json.object fields).write .indented)) = .error e) :
      Stored i key fields h (.ok ()) ({ h with files := made }.warn (.stateNotStored (Utf16.decode key)))
  /-- The file holds the fields. -/
  | written {files : FileTree} (hwithin : (Json.object fields).Within h.limits)
      (hstore : h.files.store i.path (Utf8.encode ((Json.object fields).write .indented)) = .ok files) :
      Stored i key fields h (.ok ()) { h with files }

theorem stored_run_store (i : Identity) (key : Units) (fields : List (Units × Json)) (h : Host) :
    Stored i key fields h ((i.store key fields).run h).1 ((i.store key fields).run h).2 := by
  unfold store
  rw [run_bind, show (get : Action Host).run h = (.ok h, h) from rfl]
  dsimp only
  cases hmade : h.files.makeDirectories i.path.parent with
  | error e => exact .adrift hmade
  | ok made =>
    dsimp only
    cases hlimit : (Json.object fields).overrun? h.limits with
    | some limit =>
      rw [Json.writeWithin, hlimit]
      exact .beyond hmade hlimit
    | none =>
      rw [Json.writeWithin_eq_ok hlimit]
      dsimp only
      cases hwrite : made.write i.path (Utf8.encode ((Json.object fields).write .indented)) with
      | error e => exact .refused hmade hlimit hwrite
      | ok files =>
        have hstore : h.files.store i.path (Utf8.encode ((Json.object fields).write .indented)) = .ok files := by
          unfold FileTree.store
          rw [hmade]
          exact hwrite
        exact .written hlimit hstore

/-- Nothing but the files is touched. -/
theorem Stored.now_eq {r : Except Fault Unit} (hstored : Stored i key fields h r h') : h'.now = h.now := by
  cases hstored <;> rfl

theorem Stored.limits_eq {r : Except Fault Unit} (hstored : Stored i key fields h r h') :
    h'.limits = h.limits := by
  cases hstored <;> rfl

/-- A value that does not go beyond a limit is written where that is possible. -/
theorem run_store_of_storable (hwithin : (Json.object fields).Within h.limits)
    (hstore : h.files.Storable i.path) (key : Units) :
    ∃ files, (i.store key fields).run h = (.ok (), { h with files }) ∧
      h.files.store i.path (Utf8.encode ((Json.object fields).write .indented)) = .ok files := by
  obtain ⟨files, hfiles⟩ := hstore (Utf8.encode ((Json.object fields).write .indented))
  obtain ⟨made, place, hmade, hlocate, hnode, rfl⟩ := FileTree.exists_of_store hfiles
  refine ⟨_, ?_, hfiles⟩
  unfold store
  rw [run_bind, show (get : Action Host).run h = (.ok h, h) from rfl]
  dsimp only
  rw [hmade, Json.writeWithin_eq_ok hwithin]
  dsimp only
  rw [FileTree.write_of_locate hlocate hnode]
  rfl

/-- Fields that go beyond a limit are not written, although the directories are made for them. -/
theorem run_store_of_overrun {made : FileTree} {limit : Overrun}
    (hmade : h.files.makeDirectories i.path.parent = .ok made)
    (hlimit : (Json.object fields).overrun? h.limits = some limit) (key : Units) :
    (i.store key fields).run h = (.error (.beyond limit), { h with files := made }) := by
  unfold store
  rw [run_bind, show (get : Action Host).run h = (.ok h, h) from rfl]
  dsimp only
  rw [hmade, Json.writeWithin, hlimit]
  rfl

/-! ## Setting a key -/

/-- Setting a key is writing the fields with the key set, if the file can be loaded. -/
theorem run_update (i : Identity) (key : Units) (value : Json) (h : Host) :
    ∃ h₁, h.Idle h₁ ∧ (i.update key value).run h =
      match i.content h with
      | .ok fields => (i.store key (Fields.set key value fields)).run h₁
      | .error fault => (.error fault, h₁) := by
  obtain ⟨h₁, hload, hidle⟩ := run_load i h
  refine ⟨h₁, hidle, ?_⟩
  unfold update
  rw [run_bind, hload]
  cases i.content h <;> rfl

/-- What setting a key does to the host. -/
theorem updated (i : Identity) (key : Units) (value : Json) (h : Host) :
    h.Idle ((i.update key value).run h).2 ∨
      ∃ h₁ fields, h.Idle h₁ ∧ i.content h = .ok fields ∧
        Stored i key (Fields.set key value fields) h₁ ((i.update key value).run h).1
          ((i.update key value).run h).2 := by
  obtain ⟨h₁, hidle, hrun⟩ := run_update i key value h
  rw [hrun]
  cases hcontent : i.content h with
  | error fault => exact .inl hidle
  | ok fields => exact .inr ⟨h₁, fields, hidle, rfl, stored_run_store ..⟩

theorem now_update (i : Identity) (key : Units) (value : Json) (h : Host) :
    ((i.update key value).run h).2.now = h.now := by
  rcases updated i key value h with hidle | ⟨h₁, fields, hidle, -, hstored⟩
  · exact hidle.now_eq
  · exact hstored.now_eq.trans hidle.now_eq

theorem limits_update (i : Identity) (key : Units) (value : Json) (h : Host) :
    ((i.update key value).run h).2.limits = h.limits := by
  rcases updated i key value h with hidle | ⟨h₁, fields, hidle, -, hstored⟩
  · exact hidle.limits_eq
  · exact hstored.limits_eq.trans hidle.limits_eq

/-- With a key set, fields can still be written and read again. -/
theorem proper_set (hproper : (Json.object fields).Proper) (hvalue : value.Proper) (key : Units) :
    (Json.object (Fields.set key value fields)).Proper := by
  cases hproper with
  | object hkeys hall =>
    refine .object (Fields.nodup_set hkeys) fun f hf => ?_
    rcases Fields.eq_or_mem_of_mem_set hf with rfl | hf
    · exact hvalue
    · exact hall f hf

/-- Whether the state file can be stored and is taken to hold some fields. -/
structure Holds (i : Identity) (h : Host) (fields : List (Units × Json)) : Prop where
  storable : h.files.Storable i.path
  content : i.content h = .ok fields

/-- Whether the state file holds an object with some fields. -/
def Keeps (i : Identity) (h : Host) (fields : List (Units × Json)) : Prop :=
  ∃ bytes text, h.files.read i.path = .ok bytes ∧ Utf8.decode? bytes = some text ∧
    Json.read h.limits text = .ok (.object fields)

theorem Keeps.holds (hkeeps : i.Keeps h fields) : i.Holds h fields := by
  obtain ⟨bytes, text, hread, hdecode, hjson⟩ := hkeeps
  refine ⟨.of_read hread, ?_⟩
  unfold Identity.content
  simp [hread, hdecode, hjson, Json.fields?]

theorem Holds.congr (hholds : i.Holds h fields) (hfiles : h'.files = h.files)
    (hlimits : h'.limits = h.limits) : i.Holds h' fields :=
  ⟨hfiles ▸ hholds.storable, (content_congr hfiles hlimits).trans hholds.content⟩

theorem Keeps.congr (hkeeps : i.Keeps h fields) (hfiles : h'.files = h.files)
    (hlimits : h'.limits = h.limits) : i.Keeps h' fields := by
  obtain ⟨bytes, text, hread, hdecode, hjson⟩ := hkeeps
  exact ⟨bytes, text, hfiles ▸ hread, hdecode, hlimits ▸ hjson⟩

/-- A value that may be written under a key of the state file, whatever the file holds. -/
def Fits (h : Host) (value : Json) : Prop :=
  ∀ l, h.limits.inside? = some l → value.Within l

theorem fits_string (h : Host) (s : Units) : Fits h (.string s) :=
  fun l _ => Json.within_string l s

theorem fits_int_iff : Fits h (.int n) ↔ Number.digitCount n ≤ Number.mostDigits := by
  have hexcludes : h.limits.excludes (Number.digitCount n) = false ↔
      Number.digitCount n ≤ Number.mostDigits := by
    rw [Host.limits, Limits.excludes_ofRoom]
    simp
  constructor
  · intro hfits
    obtain ⟨l, hl⟩ := Limits.inside?_ofRoom h.room
    have hwithin := Json.within_int_iff.mp (hfits l hl)
    rw [Limits.excludes_of_inside? hl] at hwithin
    exact hexcludes.mp hwithin
  · intro hshort l hl
    exact (Json.within_int_iff.mpr (hexcludes.mpr hshort)).mono_int hl

theorem within_set (hsound : (Json.object fields).Sound h.limits) (hfits : Fits h value) (key : Units) :
    (Json.object (Fields.set key value fields)).Within h.limits := by
  obtain ⟨l, hl⟩ := Limits.inside?_ofRoom h.room
  exact (Json.overrun?_object_set hsound.2 hl key value).trans (hfits l hl)

/-- Where the file can be stored, it holds the fields with the key set. -/
theorem run_update_of_holds (hholds : i.Holds h fields) (key : Units) (hvalue : value.Proper)
    (hfits : Fits h value) :
    ∃ h₁ files, h.Idle h₁ ∧ (i.update key value).run h = (.ok (), { h₁ with files }) ∧
      i.Keeps { h₁ with files } (Json.fieldsReread (Fields.set key value fields)) := by
  obtain ⟨hstore, hcontent⟩ := hholds
  have hsound := sound_of_content hcontent
  obtain ⟨h₁, hidle, hrun⟩ := run_update i key value h
  have hwithin : (Json.object (Fields.set key value fields)).Within h₁.limits :=
    hidle.limits_eq ▸ within_set hsound hfits key
  obtain ⟨files, hwritten, hfiles⟩ := run_store_of_storable hwithin (hidle.files_eq ▸ hstore) key
  rw [hcontent] at hrun
  refine ⟨h₁, files, hidle, hrun.trans hwritten, _, _, FileTree.read_of_store hfiles,
    Utf8.decode?_encode _, ?_⟩
  exact Json.read_write (proper_set hsound.1 hvalue key) hwithin .indented

end Identity

end Kudos
