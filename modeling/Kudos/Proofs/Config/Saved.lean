import Mathlib
import Kudos.Proofs.Config.Settings
import Kudos.Proofs.Text.Utf8
import Kudos.Proofs.Toml.RoundTrip

/-!
# Saved settings

What saving one setting does to any home directory. Saving is stopped by what keeps the configuration
from being loaded, by a section that is not a table, by a home directory that cannot be made and by a
configuration that cannot be written (`SaveObstacle`). In the last case the file is empty afterwards; in
every other case in which the setting is not saved the file is as it was (`save_outcome`). A plain string
in a plain configuration is read back, and the other settings are as before.
-/

namespace Kudos.Config

open Toml (Table Plain PlainSection PlainString)

/-! ## Changes -/

/-- A change of one setting. -/
inductive Change where
  /-- Another address for records. -/
  | endpoint (t : Text)
  /-- Another theme. -/
  | theme (t : Text)
  deriving Repr, DecidableEq

namespace Change

/-- Saves the changed setting. -/
def save (home : Home) : Change → Action Bool
  | endpoint t => saveEndpoint home t
  | theme t => saveTheme home t

/-- The new text of the setting. -/
def text : Change → Text
  | endpoint t => t
  | theme t => t

/-- The section of the setting. -/
def place : Change → Text
  | endpoint _ => recordsSection
  | theme _ => displaySection

/-- The settings with the change. -/
def update (s : Settings) : Change → Settings
  | endpoint t => { s with endpoint := t }
  | theme t => { s with colorTheme := t }

/-- The fields with the change; none if the section of the setting is not a table. -/
def applied : Change → Table → Option Table
  | endpoint t, fields =>
    some (if t.isEmpty then Fields.erase recordsSection fields
      else Fields.set recordsSection (.table [(endpointKey, .string t)]) fields)
  | theme t, fields =>
    match section? fields displaySection with
    | .ok display => some (Fields.set displaySection (.table (Fields.set themeKey (.string t) display)) fields)
    | .error _ => none

end Change

variable {t made emptied files : FileTree} {home : Home} {h : Host} {c : Change} {l : Limits}
  {fields fields' entries : Table} {name key : Text} {v : Toml} {fault : Fault} {cause : FileError}
  {flaw : Toml.Flaw} {text : Text}

/-! ## Writing the configuration -/

theorem run_save_of_not_made (hmade : h.files.makeDirectories home.directory = .error cause) (fields : Table) :
    (save home fields).run h = (.error (.file cause), h) := by
  have hget : (get : Action Host).run h = (.ok h, h) := rfl
  unfold save
  rw [run_bind, hget]
  dsimp only
  rw [hmade]
  rfl

/-- The directory is made first, and the rest is done behind it. -/
theorem run_save_of_made (hmade : h.files.makeDirectories home.directory = .ok made) (fields : Table) :
    (save home fields).run h =
      match made.write home.config [] with
      | .error _ => (.ok false, ({ h with files := made } : Host).warn .configNotStored)
      | .ok emptied =>
        match Toml.toText h.room fields with
        | .error flaw => (.error (.configuration flaw), { h with files := emptied })
        | .ok text =>
          (.ok true, { h with files := (made.write home.config (Utf8.encode text)).toOption.getD emptied }) := by
  have hget : (get : Action Host).run h = (.ok h, h) := rfl
  unfold save
  rw [run_bind, hget]
  dsimp only
  rw [hmade]
  dsimp only
  cases made.write home.config [] with
  | error cause => rfl
  | ok emptied =>
    dsimp only
    cases Toml.toText h.room fields <;> rfl

/-- Nothing can be read where no file can be written, and nothing could before the directory was made. -/
theorem not_read_of_blocked (hmade : t.makeDirectories home.directory = .ok made)
    (hwrite : made.write home.config [] = .error cause) (bytes : List UInt8) :
    made.read home.config ≠ .ok bytes ∧ t.read home.config ≠ .ok bytes := by
  have blocked : ∀ bytes, made.read home.config ≠ .ok bytes := by
    intro bytes hread
    obtain ⟨place, hlocate, hnode⟩ := FileTree.read_eq_ok_iff_locate.mp hread
    rw [FileTree.write_of_locate hlocate (by simp [hnode])] at hwrite
    cases hwrite
  refine ⟨blocked bytes, fun hread => ?_⟩
  obtain ⟨place, hlocate, -⟩ := FileTree.read_eq_ok_iff_locate.mp hread
  have hsame : t.makeDirectories home.directory = .ok t := by
    have hparent := FileTree.makeDirectories_parent hlocate
    rwa [Home.config, FileTree.parent_child] at hparent
  rw [hsame] at hmade
  cases hmade
  exact blocked bytes hread

/-! ## Saving -/

/-- Saving loads the configuration, changes it and writes it again. -/
theorem run_change (c : Change) (home : Home) (h : Host) :
    ∃ h', h'.files = h.files ∧ h'.room = h.room ∧ (c.save home).run h =
      match content h home with
      | .error fault => (.error fault, h')
      | .ok fields =>
        match c.applied fields with
        | none => (.error .settingNotStorable, h')
        | some fields' => (save home fields').run h' := by
  obtain ⟨h', hload, hsame⟩ := run_load home h
  have hfiles : h'.files = h.files := by rcases hsame with rfl | rfl <;> rfl
  have hroom : h'.room = h.room := by rcases hsame with rfl | rfl <;> rfl
  refine ⟨h', hfiles, hroom, ?_⟩
  cases c with
  | endpoint t =>
    show (saveEndpoint home t).run h = _
    unfold saveEndpoint
    rw [run_bind, hload]
    cases content h home <;> rfl
  | theme t =>
    show (saveTheme home t).run h = _
    unfold saveTheme
    rw [run_bind, hload]
    cases content h home with
    | error fault => rfl
    | ok fields =>
      unfold Change.applied section?
      dsimp only
      cases Fields.get? fields displaySection with
      | none => rfl
      | some v => cases v <;> rfl

/-- What keeps a setting from being saved. -/
inductive SaveObstacle (h : Host) (home : Home) (c : Change) : Fault → Prop where
  | load {f : Fault} (hload : LoadObstacle h home f) : SaveObstacle h home c f
  | settingNotStorable {counting : Table} (hcounts : Counts h home counting)
      (happlied : c.applied counting = none) :
      SaveObstacle h home c .settingNotStorable
  | directory {counting changed : Table} {cause : FileError} (hcounts : Counts h home counting)
      (happlied : c.applied counting = some changed)
      (hmade : h.files.makeDirectories home.directory = .error cause) :
      SaveObstacle h home c (.file cause)
  | text {counting changed : Table} {files emptied : FileTree} {flaw : Toml.Flaw}
      (hcounts : Counts h home counting)
      (happlied : c.applied counting = some changed)
      (hmade : h.files.makeDirectories home.directory = .ok files)
      (hwrite : files.write home.config [] = .ok emptied) (htext : Toml.toText h.room changed = .error flaw) :
      SaveObstacle h home c (.configuration flaw)

/-! ## Reading back -/

theorem value?_set_self (key : Text) :
    value? (Fields.set name (.table entries) fields) name key = Fields.get? entries key := by
  unfold value?
  rw [Fields.get?_set_self]

theorem value?_congr (h : Fields.get? fields' name = Fields.get? fields name) (key : Text) :
    value? fields' name key = value? fields name key := by
  unfold value?
  rw [h]

theorem exists_of_applied_theme {t : Text} (happlied : (Change.theme t).applied fields = some fields') :
    ∃ display, section? fields displaySection = .ok display ∧
      fields' = Fields.set displaySection (.table (Fields.set themeKey (.string t) display)) fields := by
  unfold Change.applied at happlied
  dsimp only at happlied
  cases hsection : section? fields displaySection with
  | error e =>
    rw [hsection] at happlied
    cases happlied
  | ok display =>
    rw [hsection] at happlied
    exact ⟨display, rfl, (Option.some.inj happlied).symm⟩

/-- A change leaves the other sections as they are. -/
theorem get?_applied_of_ne (happlied : c.applied fields = some fields') (hne : name ≠ c.place) :
    Fields.get? fields' name = Fields.get? fields name := by
  cases c with
  | endpoint t =>
    obtain rfl := Option.some.inj happlied
    split
    · exact Fields.get?_erase_of_ne hne fields
    · exact Fields.get?_set_of_ne hne _ fields
  | theme t =>
    obtain ⟨display, -, rfl⟩ := exists_of_applied_theme happlied
    exact Fields.get?_set_of_ne hne _ fields

/-- The changed fields stand for the changed settings. -/
theorem taken_applied (happlied : c.applied fields = some fields') :
    taken fields' = c.update (taken fields) := by
  cases c with
  | endpoint t =>
    have hdisplay := get?_applied_of_ne happlied (show displaySection ≠ recordsSection by decide)
    have htimers := get?_applied_of_ne happlied (show timersSection ≠ recordsSection by decide)
    have hvalue : ((value? fields' recordsSection endpointKey).map textOf).getD ({} : Settings).endpoint = t := by
      rw [← Option.some.inj happlied]
      split
      · next hempty =>
        have hnil : t = [] := List.isEmpty_iff.mp hempty
        unfold value?
        rw [Fields.get?_erase_self, hnil]
        rfl
      · rw [value?_set_self]
        rfl
    unfold taken
    rw [hvalue]
    simp only [value?_congr hdisplay, value?_congr htimers, Change.update]
  | theme t =>
    have hrecords := get?_applied_of_ne happlied (show recordsSection ≠ displaySection by decide)
    have htimers := get?_applied_of_ne happlied (show timersSection ≠ displaySection by decide)
    obtain ⟨display, -, rfl⟩ := exists_of_applied_theme happlied
    unfold taken
    rw [value?_set_self, Fields.get?_set_self]
    simp only [value?_congr hrecords, value?_congr htimers, Change.update]
    rfl

/-- The names of the sections and keys of settings can stand for themselves. -/
theorem bare_of_mem (name : Text) (hname : name ∈ [recordsSection, displaySection, endpointKey, themeKey]) :
    Toml.Bare name := by
  have hall : [recordsSection, displaySection, endpointKey, themeKey].all (fun name =>
    !name.isEmpty && name.all Toml.isBare) = true := rfl
  have hbare := List.all_eq_true.mp hall name hname
  rw [Bool.and_eq_true, Bool.not_eq_true', List.isEmpty_eq_false_iff] at hbare
  exact ⟨hbare.1, List.all_eq_true.mp hbare.2⟩

/-- A change of a plain configuration by a plain string makes a plain configuration. -/
theorem plain_applied (hfields : Plain fields) (htext : PlainString c.text)
    (happlied : c.applied fields = some fields') :
    Plain fields' := by
  cases c with
  | endpoint t =>
    obtain rfl := Option.some.inj happlied
    split
    · exact hfields.erase recordsSection
    · exact hfields.set (bare_of_mem _ (by simp))
        (Toml.plainSection_nil.set (bare_of_mem endpointKey (by simp)) (.string htext))
  | theme t =>
    obtain ⟨display, hsection, rfl⟩ := exists_of_applied_theme happlied
    have hdisplay : PlainSection display := by
      unfold section? at hsection
      cases hfound : Fields.get? fields displaySection with
      | none =>
        rw [hfound] at hsection
        cases hsection
        exact Toml.plainSection_nil
      | some v =>
        obtain ⟨entries, rfl, hplain⟩ := hfields.exists_section hfound
        rw [hfound] at hsection
        cases hsection
        exact hplain
    exact hfields.set (bare_of_mem _ (by simp))
      (hdisplay.set (bare_of_mem themeKey (by simp)) (.string htext))

/-- Every change can be made to a plain configuration. -/
theorem exists_applied (hfields : Plain fields) (c : Change) : ∃ fields', c.applied fields = some fields' := by
  cases c with
  | endpoint t => exact ⟨_, rfl⟩
  | theme t =>
    have hsection : ∃ display, section? fields displaySection = .ok display := by
      unfold section?
      cases hfound : Fields.get? fields displaySection with
      | none => exact ⟨[], rfl⟩
      | some v =>
        obtain ⟨entries, rfl, -⟩ := hfields.exists_section hfound
        exact ⟨entries, rfl⟩
    obtain ⟨display, hsection⟩ := hsection
    unfold Change.applied
    simp [hsection]

/-- A value that is read as it was written goes beyond no limit of a host. -/
theorem overrun?_of_plain (hv : Toml.PlainValue v) (room : Nat) : v.overrun? (.ofRoom room) = none := by
  cases hv with
  | string => rfl
  | bool => rfl
  | int hfits =>
    have hshort : ∀ n : Int, n.natAbs < 2 ^ 1024 - 2 ^ 970 →
        (Limits.ofRoom room).excludes (Number.digitCount n) = false :=
      fun n hn => decide_eq_false (Nat.not_lt.mpr (Toml.length_ofNat hn))
    unfold Toml.overrun?
    exact if_neg (by simp [hshort _ hfits])

theorem plainValue_of_value? (hfields : Plain fields) (hvalue : value? fields name key = some v) :
    Toml.PlainValue v := by
  unfold value? at hvalue
  split at hvalue
  · next entries hfound =>
    obtain ⟨_, ⟨⟩, hplain⟩ := hfields.exists_section hfound
    exact hplain.plain _ (Fields.mem_of_get? hvalue)
  · cases hvalue

/-- No part of a plain configuration has a fault. -/
theorem fault?_of_plain (hfields : Plain fields) (room : Nat) (part : Part) :
    part.fault? (.ofRoom room) fields = none := by
  cases part with
  | table name =>
    refine if_pos ?_
    cases hfound : Fields.get? fields name with
    | none => rfl
    | some v =>
      obtain ⟨entries, rfl, -⟩ := hfields.exists_section hfound
      rfl
  | text name key =>
    unfold Part.fault?
    dsimp only
    cases hvalue : value? fields name key with
    | none => rfl
    | some v => rw [Option.bind_some, overrun?_of_plain (plainValue_of_value? hfields hvalue), Option.map_none]
  | delay key =>
    unfold Part.fault?
    dsimp only
    split
    · next n hvalue =>
      cases plainValue_of_value? hfields hvalue with
      | int hfits => exact if_neg (Nat.not_le.mpr hfits)
    · rfl

theorem settings_of_counts (hfields : Plain fields) (hcounts : Counts h home fields) :
    ((settings home).run h).1 = .ok (taken fields) := by
  obtain ⟨h', hrun, -⟩ := run_settings home h
  rw [hrun, content_eq_ok_iff.mpr hcounts]
  exact settingsOf_eq_ok_iff.mpr ⟨fun part _ => fault?_of_plain hfields h.room part, rfl⟩

/-- A plain configuration is in the file that it was written to. -/
theorem holds_of_written {room : Nat} (hfields : Plain fields) (htext : Toml.toText room fields = .ok text)
    (hread : h.files.read home.config = .ok (Utf8.encode text)) : Holds h home (.ok fields) := by
  obtain ⟨written, hwritten, hof⟩ := hfields.ofText_toText room h.room
  rw [htext] at hwritten
  cases hwritten
  exact ⟨_, text, hread, Utf8.decode?_encode text, hof⟩

/-- The settings of a plain configuration are read from the file that it was written to. -/
theorem settings_of_written {room : Nat} (hfields : Plain fields) (htext : Toml.toText room fields = .ok text)
    (hread : h.files.read home.config = .ok (Utf8.encode text)) :
    ((settings home).run h).1 = .ok (taken fields) :=
  settings_of_counts hfields (.inl (holds_of_written hfields htext hread))

/-- A string without a written form keeps a configuration from being written. -/
theorem toText_of_string {t : Text} (hname : Toml.Bare name) (hkey : Toml.Bare key)
    (htext : Toml.stringText t = .error flaw) (room : Nat) :
    Toml.toText room [(name, .table [(key, .string t)])] = .error flaw := by
  have hentries : Toml.split room name [(key, .string t)] = .error flaw := by
    obtain ⟨below, hsplit⟩ := Toml.exists_split_eq room
    have hpart : Toml.entryPart room below name key (.string t) = .error flaw := by
      unfold Toml.entryPart Toml.valueText
      rw [Toml.keyText_eq hkey, htext]
      rfl
    rw [hsplit, Toml.tableParts, List.mapM_cons]
    dsimp only
    rw [hpart]
    rfl
  have hnames : ∀ s ∈ [(name, [(key, Toml.string t)])], Toml.Bare s.1 := by simpa using hname
  have hsections := Toml.split_ofSections hnames room
  show (Toml.split room [] (Toml.ofSections [(name, [(key, .string t)])]) >>= fun s => _) = _
  rw [hsections]
  show ([(name, [(key, Toml.string t)])].mapM (fun s => Toml.split room s.1 s.2 >>= fun p => pure (s.1, p)) >>=
    fun parts => _) = _
  rw [List.mapM_cons, hentries]
  rfl

/-! ## What saving does -/

/-- The bytes of the configuration file, if there is one. -/
def stored? (t : FileTree) (home : Home) : Option (List UInt8) :=
  (t.read home.config).toOption

/-- The ways in which saving ends, with the answer and the files. -/
inductive Outcome (h : Host) (home : Home) (c : Change) : Except Fault Bool → FileTree → Prop where
  | stopped {f : Fault} (hobstacle : SaveObstacle h home c f) : Outcome h home c (.error f) h.files
  | blocked {files : FileTree} {cause : FileError} (hmade : h.files.makeDirectories home.directory = .ok files)
      (hwrite : files.write home.config [] = .error cause) : Outcome h home c (.ok false) files
  | emptied {counting changed : Table} {files empty : FileTree} {flaw : Toml.Flaw}
      (hcounts : Counts h home counting)
      (happlied : c.applied counting = some changed)
      (hmade : h.files.makeDirectories home.directory = .ok files)
      (hwrite : files.write home.config [] = .ok empty) (htext : Toml.toText h.room changed = .error flaw) :
      Outcome h home c (.error (.configuration flaw)) empty
  | saved {counting changed : Table} {files written : FileTree} {body : Text}
      (hcounts : Counts h home counting)
      (happlied : c.applied counting = some changed) (htext : Toml.toText h.room changed = .ok body)
      (hwrite : files.write home.config (Utf8.encode body) = .ok written) : Outcome h home c (.ok true) written

theorem outcome (c : Change) (home : Home) (h : Host) :
    Outcome h home c ((c.save home).run h).1 ((c.save home).run h).2.files := by
  obtain ⟨h', hfiles, hroom, hrun⟩ := run_change c home h
  rw [hrun]
  cases hcontent : content h home with
  | error fault =>
    dsimp only
    rw [hfiles]
    exact .stopped (.load (content_eq_error_iff.mp hcontent))
  | ok fields =>
    have hcounts := content_eq_ok_iff.mp hcontent
    dsimp only
    cases happlied : c.applied fields with
    | none =>
      dsimp only
      rw [hfiles]
      exact .stopped (.settingNotStorable hcounts happlied)
    | some fields' =>
      dsimp only
      cases hmade : h.files.makeDirectories home.directory with
      | error cause =>
        rw [run_save_of_not_made (by rw [hfiles, hmade]), hfiles]
        exact .stopped (.directory hcounts happlied hmade)
      | ok made =>
        rw [run_save_of_made (by rw [hfiles, hmade])]
        cases hwrite : made.write home.config [] with
        | error cause => exact .blocked hmade hwrite
        | ok emptied =>
          dsimp only
          rw [hroom]
          cases htext : Toml.toText h.room fields' with
          | error flaw => exact .emptied hcounts happlied hmade hwrite htext
          | ok text =>
            obtain ⟨written, hwritten⟩ := FileTree.write_of_write hwrite (Utf8.encode text)
            dsimp only
            rw [hwritten]
            exact .saved hcounts happlied htext hwritten

section

variable {answer : Except Fault Bool}

theorem Outcome.obstacle (houtcome : Outcome h home c (.error fault) files) : SaveObstacle h home c fault := by
  cases houtcome with
  | stopped hobstacle => exact hobstacle
  | emptied hcounts happlied hmade hwrite htext => exact .text hcounts happlied hmade hwrite htext

/-- The file is kept or emptied where the setting is not saved. -/
theorem Outcome.kept (houtcome : Outcome h home c answer files) (hnot : answer ≠ .ok true) :
    stored? files home = stored? h.files home ∨ stored? files home = some [] ∧ ∃ fields fields' flaw,
      Counts h home fields ∧ c.applied fields = some fields' ∧ Toml.toText h.room fields' = .error flaw := by
  cases houtcome with
  | stopped => exact .inl rfl
  | blocked hmade hwrite =>
    left
    have hnone := not_read_of_blocked hmade hwrite
    unfold stored?
    cases hafter : files.read home.config with
    | ok bytes => exact absurd hafter (hnone bytes).1
    | error _ =>
      cases hbefore : h.files.read home.config with
      | ok bytes => exact absurd hbefore (hnone bytes).2
      | error _ => rfl
  | emptied hcounts happlied hmade hwrite htext =>
    right
    unfold stored?
    rw [FileTree.read_of_write hwrite]
    exact ⟨rfl, _, _, _, hcounts, happlied, htext⟩
  | saved => exact absurd rfl hnot

theorem Outcome.written (houtcome : Outcome h home c (.ok true) files) :
    ∃ fields fields' text, Counts h home fields ∧ c.applied fields = some fields' ∧
      Toml.toText h.room fields' = .ok text ∧ files.read home.config = .ok (Utf8.encode text) := by
  cases houtcome with
  | saved hcounts happlied htext hwrite =>
    exact ⟨_, _, _, hcounts, happlied, htext, FileTree.read_of_write hwrite⟩

end

/-- The file is emptied before the changed fields turn out not to be writable. -/
theorem run_of_text (hcounts : Counts h home fields) (happlied : c.applied fields = some fields')
    (hmade : h.files.makeDirectories home.directory = .ok made) (hwrite : made.write home.config [] = .ok emptied)
    (htext : Toml.toText h.room fields' = .error flaw) :
    ((c.save home).run h).1 = .error (.configuration flaw) ∧ ((c.save home).run h).2.files = emptied := by
  obtain ⟨h', hfiles, hroom, hrun⟩ := run_change c home h
  rw [hrun, content_eq_ok_iff.mpr hcounts]
  dsimp only
  rw [happlied]
  dsimp only
  rw [run_save_of_made (by rw [hfiles, hmade]), hwrite]
  dsimp only
  rw [hroom, htext]
  exact ⟨rfl, rfl⟩

/-- Each obstacle stops the saving. -/
theorem error_of_obstacle (hobstacle : SaveObstacle h home c fault) :
    ((c.save home).run h).1 = .error fault := by
  obtain ⟨h', hfiles, hroom, hrun⟩ := run_change c home h
  rw [hrun]
  cases hobstacle with
  | load hload => rw [content_eq_error_iff.mpr hload]
  | settingNotStorable hcounts happlied =>
    rw [content_eq_ok_iff.mpr hcounts]
    dsimp only
    rw [happlied]
  | directory hcounts happlied hmade =>
    rw [content_eq_ok_iff.mpr hcounts]
    dsimp only
    rw [happlied]
    dsimp only
    rw [run_save_of_not_made (by rw [hfiles, hmade])]
  | text hcounts happlied hmade hwrite htext =>
    rw [← hrun]
    exact (run_of_text hcounts happlied hmade hwrite htext).1

/-- A plain string is saved in a plain configuration wherever the file can be stored. -/
theorem saved_of_plain (hcounts : Counts h home fields) (hfields : Plain fields) (htext : PlainString c.text)
    (hstorable : h.files.Storable home.config) : ((c.save home).run h).1 = .ok true := by
  obtain ⟨fields', happlied⟩ := exists_applied hfields c
  obtain ⟨text, hwritten, -⟩ := (plain_applied hfields htext happlied).ofText_toText h.room h.room
  obtain ⟨t', hstore⟩ := hstorable []
  obtain ⟨made, place, hmade, hplace, hnode, -⟩ := FileTree.exists_of_store hstore
  rw [Home.config, FileTree.parent_child] at hmade
  obtain ⟨h', hfiles, hroom, hrun⟩ := run_change c home h
  rw [hrun, content_eq_ok_iff.mpr hcounts]
  dsimp only
  rw [happlied]
  dsimp only
  rw [run_save_of_made (by rw [hfiles, hmade]), FileTree.write_of_locate hplace hnode]
  dsimp only
  rw [hroom, hwritten]

/-- A configuration can be lost: the file is empty after a theme that has no written form. -/
theorem exists_configuration_lost :
    ∃ (c : Change) (home : Home) (h : Host), ((c.save home).run h).1 ≠ .ok true ∧
      stored? ((c.save home).run h).2.files home ≠ stored? h.files home := by
  have hplain : Plain [(displaySection, .table [(themeKey, .string ['a'])])] := by
    have hstring : PlainString ['a'] := Toml.plainString_of_all rfl
    have hempty : Plain [] := ⟨by simp, by simp, List.nodup_nil⟩
    exact plain_applied (c := .theme ['a']) hempty hstring rfl
  let room := ({} : Host).room
  obtain ⟨text, htext, hof⟩ := hplain.ofText_toText room room
  have hne : text ≠ [] := by
    rintro rfl
    cases hof
  let home : Home := ⟨⟨[], ["home".toList]⟩⟩
  let h : Host := { files := { entries := [(["home".toList], .directory),
    (["home".toList, "config.toml".toList], .file (Utf8.encode text))] } }
  have hcounts : Counts h home [(displaySection, .table [(themeKey, .string ['a'])])] :=
    .inl ⟨_, text, rfl, Utf8.decode?_encode text, hof⟩
  have hwritten : Toml.toText h.room [(displaySection, .table [(themeKey, .string ['\x01'])])] =
      .error .partMissing := by
    refine toText_of_string (bare_of_mem _ (by simp)) (bare_of_mem _ (by simp)) ?_ h.room
    cbv
  obtain ⟨hanswer, hfiles⟩ := run_of_text (c := .theme ['\x01']) (h := h) hcounts rfl rfl rfl hwritten
  refine ⟨.theme ['\x01'], home, h, by rw [hanswer]; simp, ?_⟩
  rw [hfiles]
  show some [] ≠ some (Utf8.encode text)
  intro heq
  have hdecode := Utf8.decode?_encode text
  rw [← Option.some.inj heq] at hdecode
  exact hne (Option.some.inj hdecode).symm

end Kudos.Config
