import Mathlib
import Kudos.Config
import Kudos.Proofs.Notifier
import Kudos.Proofs.Files.Storable
import Kudos.Proofs.Number.Binary64

/-!
# Settings from any configuration

What loading the settings does for everything that can stand at the place of the configuration file. A
file that is missing, cannot be read or is malformed counts as empty, and a value that is missing or of
no use counts as its default (`taken`). Loading is stopped by a file that is not UTF-8, by one that
defeats the reader, and by the first part of the configuration that has a fault (`Part.fault?`): a section
that is not a table, a text beyond a limit or a delay too large for the format. Nothing else stops it
(`settings_returns_iff`).
-/

namespace Kudos.Config

open Toml (Table)

variable {home : Home} {h : Host} {l : Limits} {fields entries : Table} {name key : Text} {v : Toml}
  {fault : Fault} {s : Settings} {result : Except Toml.Flaw Table}

/-! ## Loading -/

/-- Whether the configuration file is not UTF-8. -/
def IllFormed (h : Host) (home : Home) : Prop :=
  ∃ bytes, h.files.read home.config = .ok bytes ∧ Utf8.decode? bytes = none

/-- Whether the configuration file is UTF-8, with a text of which the reader makes what is given. -/
def Holds (h : Host) (home : Home) (content : Except Toml.Flaw Table) : Prop :=
  ∃ bytes text, h.files.read home.config = .ok bytes ∧ Utf8.decode? bytes = some text ∧
    Toml.ofText h.room (Text.joinLineBreaks text) = content

/-- Whether these fields count: those of the file, and none if no file can be read or its text does not
follow the notation. -/
def Counts (h : Host) (home : Home) (fields : Table) : Prop :=
  Holds h home (.ok fields) ∨
    fields = [] ∧ ((∀ bytes, h.files.read home.config ≠ .ok bytes) ∨ Holds h home (.error .malformed))

/-- What keeps the configuration from being loaded. -/
inductive LoadObstacle (h : Host) (home : Home) : Fault → Prop where
  | badEncoding (hbytes : IllFormed h home) : LoadObstacle h home .badEncoding
  | configuration {flaw : Toml.Flaw} (hflaw : flaw ≠ .malformed) (hholds : Holds h home (.error flaw)) :
      LoadObstacle h home (.configuration flaw)

/-- What comes of what the reader makes of a text. A malformed text counts as empty. -/
def counting : Except Toml.Flaw Table → Except Fault Table
  | .ok fields => .ok fields
  | .error .malformed => .ok []
  | .error flaw => .error (.configuration flaw)

/-- The fields that count, or the fault that stops loading them. -/
def content (h : Host) (home : Home) : Except Fault Table :=
  match h.files.read home.config with
  | .error _ => .ok []
  | .ok bytes =>
    match Utf8.decode? bytes with
    | none => .error .badEncoding
    | some text => counting (Toml.ofText h.room (Text.joinLineBreaks text))

theorem content_of_holds (hholds : Holds h home result) : content h home = counting result := by
  obtain ⟨bytes, text, hread, hdecode, rfl⟩ := hholds
  unfold content
  simp only [hread, hdecode]

theorem content_of_illFormed (hbytes : IllFormed h home) : content h home = .error .badEncoding := by
  obtain ⟨bytes, hread, hdecode⟩ := hbytes
  unfold content
  simp only [hread, hdecode]

theorem content_of_missing (hmissing : ∀ bytes, h.files.read home.config ≠ .ok bytes) :
    content h home = .ok [] := by
  unfold content
  cases hread : h.files.read home.config with
  | error e => rfl
  | ok bytes => exact absurd hread (hmissing bytes)

/-- There is no file, or it is not UTF-8, or its text is read. -/
theorem file_cases (h : Host) (home : Home) :
    (∀ bytes, h.files.read home.config ≠ .ok bytes) ∨ IllFormed h home ∨ ∃ result, Holds h home result := by
  cases hread : h.files.read home.config with
  | error e => exact .inl fun bytes => by simp
  | ok bytes =>
    cases hdecode : Utf8.decode? bytes with
    | none => exact .inr (.inl ⟨bytes, hread, hdecode⟩)
    | some text => exact .inr (.inr ⟨_, bytes, text, hread, hdecode, rfl⟩)

theorem content_eq_ok_iff : content h home = .ok fields ↔ Counts h home fields := by
  constructor
  · intro hcontent
    rcases file_cases h home with hmissing | hbytes | ⟨result, hholds⟩
    · rw [content_of_missing hmissing] at hcontent
      cases hcontent
      exact .inr ⟨rfl, .inl hmissing⟩
    · rw [content_of_illFormed hbytes] at hcontent
      cases hcontent
    · rw [content_of_holds hholds] at hcontent
      match result, hholds with
      | .ok fields, hholds =>
        cases hcontent
        exact .inl hholds
      | .error flaw, hholds =>
        cases flaw <;> cases hcontent
        exact .inr ⟨rfl, .inr hholds⟩
  · rintro (hholds | ⟨rfl, hmissing | hholds⟩)
    · exact content_of_holds hholds
    · exact content_of_missing hmissing
    · exact content_of_holds hholds

theorem Counts.unique (hcounts : Counts h home fields) (hcounts' : Counts h home entries) : entries = fields := by
  have hsame := content_eq_ok_iff.mpr hcounts'
  rw [content_eq_ok_iff.mpr hcounts] at hsame
  exact (Except.ok.inj hsame).symm

theorem content_eq_error_iff : content h home = .error fault ↔ LoadObstacle h home fault := by
  constructor
  · intro hcontent
    rcases file_cases h home with hmissing | hbytes | ⟨result, hholds⟩
    · rw [content_of_missing hmissing] at hcontent
      cases hcontent
    · rw [content_of_illFormed hbytes] at hcontent
      cases hcontent
      exact .badEncoding hbytes
    · rw [content_of_holds hholds] at hcontent
      match result, hholds with
      | .ok fields, hholds => cases hcontent
      | .error flaw, hholds =>
        cases flaw <;> cases hcontent <;> exact .configuration (by simp) hholds
  · rintro (hbytes | ⟨hflaw, hholds⟩)
    · exact content_of_illFormed hbytes
    · rw [content_of_holds hholds]
      unfold counting
      split
      · next heq => cases heq
      · next heq =>
        cases heq
        exact absurd rfl hflaw
      · next heq =>
        cases heq
        rfl

/-- Loading leaves everything as it is, but for a warning perhaps. -/
theorem run_load (home : Home) (h : Host) :
    ∃ h', (load home).run h = (content h home, h') ∧
      (h' = h ∨ h' = h.warn .configUnreadable) := by
  unfold load content
  rw [run_bind]
  show ∃ h', (if !h.files.contains home.config then pure [] else _ : Action Table).run h = _ ∧ _
  cases hread : h.files.read home.config with
  | error e =>
    by_cases hthere : h.files.contains home.config
    · simp only [hthere]
      exact ⟨_, rfl, .inr rfl⟩
    · simp only [hthere]
      exact ⟨_, rfl, .inl rfl⟩
  | ok bytes =>
    simp only [FileTree.contains_of_read hread]
    cases Utf8.decode? bytes with
    | none => exact ⟨_, rfl, .inl rfl⟩
    | some text =>
      dsimp only
      cases Toml.ofText h.room (Text.joinLineBreaks text) with
      | ok fields => exact ⟨_, rfl, .inl rfl⟩
      | error flaw =>
        cases flaw with
        | malformed => exact ⟨_, rfl, .inr rfl⟩
        | _ => exact ⟨_, rfl, .inl rfl⟩

/-! ## Values -/

/-- The value of a key of a section, if the section is a table that has the key. -/
def value? (fields : Table) (name key : Text) : Option Toml :=
  match Fields.get? fields name with
  | some (.table entries) => Fields.get? entries key
  | _ => none

/-- The text that a value stands for: a string for itself, anything else for what is shown of it. -/
def textOf : Toml → Text
  | .string t => t
  | v => v.toShown.text

/-- The number that a value stands for, if it is of use as a delay. -/
def number? : Toml → Option Number
  | .int n => (Binary64.ofInt? n).map .real
  | .real x => some (.real x)
  | .bool b => some (.real (Binary64.ofRatio false (if b then 1 else 0) 1))
  | .string t => (Number.ofText? t).map .real
  | _ => none

/-- The settings that are made of some fields: what is missing or of no use has its default. -/
def taken (fields : Table) : Settings where
  endpoint := ((value? fields recordsSection endpointKey).map textOf).getD ({} : Settings).endpoint
  colorTheme := ((value? fields displaySection themeKey).map textOf).getD ({} : Settings).colorTheme
  inactivity := ((value? fields timersSection inactivityKey).bind number?).getD ({} : Settings).inactivity
  dismiss := ((value? fields timersSection dismissKey).bind number?).getD ({} : Settings).dismiss

/-- A part of a configuration that settings are made of. -/
inductive Part where
  /-- A section. -/
  | table (name : Text)
  /-- The text under a key of a section. -/
  | text (name key : Text)
  /-- The delay under a key. -/
  | delay (key : Text)
  deriving Repr, DecidableEq

/-- The parts of a configuration in the order in which they are looked at. -/
def parts : List Part :=
  [.table recordsSection, .text recordsSection endpointKey, .table displaySection,
    .text displaySection themeKey, .table timersSection, .delay inactivityKey, .delay dismissKey]

/-- What is wrong with a part of some fields: a section is not a table, the value of a text goes beyond
a limit, or a delay is an integer too large for the format. -/
def Part.fault? (l : Limits) (fields : Table) : Part → Option Fault
  | table name => if (Fields.get? fields name).all Toml.isTable then none else some .sectionNotTable
  | text name key => ((value? fields name key).bind (Toml.overrun? l)).map .beyond
  | delay key =>
    match value? fields timersSection key with
    | some (.int n) => if 2 ^ 1024 - 2 ^ 970 ≤ n.natAbs then some .numberTooLarge else none
    | _ => none

/-- A result, unless there is a fault. -/
def guarded {α : Type} (fault? : Option Fault) (a : α) : Except Fault α :=
  match fault? with
  | some fault => .error fault
  | none => .ok a

section

variable {α β : Type} {fault? : Option Fault} {a : α} {f : α → Except Fault β}

theorem guarded_bind : guarded fault? a >>= f = guarded fault? () >>= fun _ => f a := by
  cases fault? <;> rfl

theorem guarded_findSome?_cons (g : Part → Option Fault) (part : Part) (rest : List Part) :
    guarded ((part :: rest).findSome? g) a = guarded (g part) () >>= fun _ => guarded (rest.findSome? g) a := by
  rw [List.findSome?_cons]
  cases g part <;> rfl

theorem guarded_eq_ok_iff {b : α} : guarded fault? a = .ok b ↔ fault? = none ∧ b = a := by
  cases fault? <;> simp [guarded, eq_comm]

theorem guarded_eq_error_iff : guarded fault? a = .error fault ↔ fault? = some fault := by
  cases fault? <;> simp [guarded]

end

/-- The entries of a section; none if it is not a table. -/
def entriesOf (fields : Table) (name : Text) : Table :=
  match Fields.get? fields name with
  | some (.table entries) => entries
  | _ => []

theorem get?_entriesOf (fields : Table) (name key : Text) :
    Fields.get? (entriesOf fields name) key = value? fields name key := by
  unfold entriesOf value?
  split <;> rfl

theorem section?_eq (l : Limits) (fields : Table) (name : Text) : section? fields name =
    guarded ((Part.table name).fault? l fields) (entriesOf fields name) := by
  unfold section? Part.fault? entriesOf
  dsimp only
  cases Fields.get? fields name with
  | none => rfl
  | some v => cases v <;> rfl

theorem display_eq (l : Limits) (v : Toml) :
    (v.display l).mapError Fault.beyond = guarded ((v.overrun? l).map .beyond) (textOf v) := by
  cases v with
  | string t => rfl
  | _ =>
    unfold Toml.display
    dsimp only
    cases Toml.overrun? l _ <;> rfl

theorem textOr_eq (l : Limits) (default : Text) (fields : Table) (name key : Text) :
    textOr l default (entriesOf fields name) key =
      guarded ((Part.text name key).fault? l fields) (((value? fields name key).map textOf).getD default) := by
  unfold textOr Part.fault?
  dsimp only
  rw [get?_entriesOf]
  cases value? fields name key with
  | none => rfl
  | some v => exact display_eq l v

theorem numberOr_eq (l : Limits) (default : Number) (fields : Table) (key : Text) :
    numberOr default (entriesOf fields timersSection) key = guarded ((Part.delay key).fault? l fields)
      (((value? fields timersSection key).bind number?).getD default) := by
  unfold numberOr Part.fault?
  dsimp only
  rw [get?_entriesOf]
  cases value? fields timersSection key with
  | none => rfl
  | some v =>
    cases v with
    | int n =>
      by_cases hlarge : 2 ^ 1024 - 2 ^ 970 ≤ n.natAbs
      · dsimp only
        rw [Binary64.ofInt?_eq_none_iff.mpr hlarge, if_pos hlarge]
        rfl
      · obtain ⟨x, hx⟩ : ∃ x, Binary64.ofInt? n = some x := by
          rwa [← Option.ne_none_iff_exists', Ne, Binary64.ofInt?_eq_none_iff]
        have hnumber : number? (.int n) = some (.real x) := by simp [number?, hx]
        simp only [hx, if_neg hlarge, Option.bind_some, hnumber]
        rfl
    | _ => rfl

/-- The first part with a fault stops the making of the settings. -/
theorem settingsOf_eq (l : Limits) (fields : Table) :
    settingsOf l fields = guarded (parts.findSome? (·.fault? l fields)) (taken fields) := by
  unfold settingsOf parts
  simp only [section?_eq l, textOr_eq, numberOr_eq l, guarded_bind, guarded_findSome?_cons]
  rfl

theorem settingsOf_eq_ok_iff : settingsOf l fields = .ok s ↔
    (∀ part ∈ parts, part.fault? l fields = none) ∧ s = taken fields := by
  rw [settingsOf_eq, guarded_eq_ok_iff, List.findSome?_eq_none_iff]

theorem settingsOf_eq_error_iff :
    settingsOf l fields = .error fault ↔ parts.findSome? (·.fault? l fields) = some fault := by
  rw [settingsOf_eq, guarded_eq_error_iff]

/-! ## Loading the settings -/

/-- What keeps the settings from being loaded: an obstacle to the configuration, or the first part of
the fields that count in which something is wrong. -/
inductive Obstacle (h : Host) (home : Home) : Fault → Prop where
  | load {f : Fault} (hload : LoadObstacle h home f) : Obstacle h home f
  | part {counting : Table} {f : Fault} (hcounts : Counts h home counting)
      (hfault : parts.findSome? (·.fault? h.limits counting) = some f) : Obstacle h home f

theorem run_settings (home : Home) (h : Host) :
    ∃ h', (settings home).run h = (content h home >>= settingsOf h.limits, h') ∧
      (h' = h ∨ h' = h.warn .configUnreadable) := by
  obtain ⟨h', hload, hsame⟩ := run_load home h
  have hlimits : h'.limits = h.limits := by rcases hsame with rfl | rfl <;> rfl
  refine ⟨h', ?_, hsame⟩
  unfold settings
  rw [run_bind, hload]
  cases content h home with
  | error fault => rfl
  | ok fields =>
    dsimp only
    have hget : (get : Action Host).run h' = (.ok h', h') := rfl
    rw [run_bind, hget]
    dsimp only
    rw [hlimits]
    show _ = (settingsOf h.limits fields, h')
    cases settingsOf h.limits fields <;> rfl

end Kudos.Config
