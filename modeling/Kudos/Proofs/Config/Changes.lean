import Mathlib
import Kudos.Proofs.Config.Saved
import Kudos.Proofs.Files.Home

/-!
# Saved settings over time

A home directory without a configuration, and settings saved one after the other. Each of them is saved,
and the last address and the last theme are the ones that are loaded. The file has a section for each of
the two and no others; an empty address takes the section of the address away again (`Kept`).
-/

namespace Kudos.Config

open Toml (Table Plain PlainString)

/-! ## The last values -/

namespace Change

/-- The address that is saved, if it is one. -/
def endpoint? : Change → Option Text
  | endpoint t => some t
  | theme _ => none

/-- The theme that is saved, if it is one. -/
def theme? : Change → Option Text
  | endpoint _ => none
  | theme t => some t

end Change

/-- The address that was saved last. -/
def lastEndpoint? (cs : List Change) : Option Text :=
  (cs.filterMap Change.endpoint?).getLast?

/-- The theme that was saved last. -/
def lastTheme? (cs : List Change) : Option Text :=
  (cs.filterMap Change.theme?).getLast?

/-- The settings that count after some changes of the standard ones. -/
def settingsAfter (cs : List Change) : Settings where
  endpoint := (lastEndpoint? cs).getD ({} : Settings).endpoint
  colorTheme := (lastTheme? cs).getD ({} : Settings).colorTheme

/-- What a configuration has after some changes of an empty one. -/
structure Kept (cs : List Change) (fields : Table) : Prop where
  records : Fields.get? fields recordsSection =
    if (lastEndpoint? cs).getD [] = [] then none
    else some (.table [(endpointKey, .string ((lastEndpoint? cs).getD []))])
  display : Fields.get? fields displaySection = (lastTheme? cs).map fun t => .table [(themeKey, .string t)]
  others : ∀ name, name ≠ recordsSection → name ≠ displaySection → Fields.get? fields name = none

variable {t : FileTree} {home : Home} {h : Host} {c : Change} {cs done : List Change} {fields fields' : Table}

theorem kept_nil : Kept [] [] where
  records := rfl
  display := rfl
  others _ _ _ := rfl

/-- The settings that are made of the sections are those of the last values. -/
theorem Kept.taken_eq (hkept : Kept cs fields) : taken fields = settingsAfter cs := by
  have hrecords : ((value? fields recordsSection endpointKey).map textOf).getD ({} : Settings).endpoint =
      (lastEndpoint? cs).getD ({} : Settings).endpoint := by
    unfold value?
    rw [hkept.records]
    show _ = (lastEndpoint? cs).getD []
    by_cases hempty : (lastEndpoint? cs).getD [] = []
    · rw [if_pos hempty, hempty]
      rfl
    · rw [if_neg hempty]
      rfl
  have hdisplay : ((value? fields displaySection themeKey).map textOf).getD ({} : Settings).colorTheme =
      (lastTheme? cs).getD ({} : Settings).colorTheme := by
    unfold value?
    rw [hkept.display]
    cases lastTheme? cs <;> rfl
  have htimers : ∀ key, value? fields timersSection key = none := by
    intro key
    unfold value?
    rw [hkept.others timersSection (by decide) (by decide)]
  unfold taken settingsAfter
  rw [hrecords, hdisplay, htimers, htimers]
  rfl

/-- A change replaces its own section and leaves the others. -/
theorem Kept.applied (hkept : Kept cs fields) (happlied : c.applied fields = some fields') :
    Kept (cs ++ [c]) fields' := by
  have hne : displaySection ≠ recordsSection := by decide
  cases c with
  | endpoint e =>
    have hlast : lastEndpoint? (cs ++ [.endpoint e]) = some e := by simp [lastEndpoint?, Change.endpoint?]
    have htheme : lastTheme? (cs ++ [.endpoint e]) = lastTheme? cs := by simp [lastTheme?, Change.theme?]
    refine ⟨?_, ?_, fun name hrecords hdisplay => ?_⟩
    · rw [← Option.some.inj happlied, hlast, Option.getD_some]
      by_cases hempty : e = []
      · rw [if_pos (List.isEmpty_iff.mpr hempty), if_pos hempty, Fields.get?_erase_self]
      · rw [if_neg (by simpa using hempty), if_neg hempty, Fields.get?_set_self]
    · rw [get?_applied_of_ne happlied hne, htheme, hkept.display]
    · rw [get?_applied_of_ne happlied hrecords, hkept.others name hrecords hdisplay]
  | theme s =>
    have hlast : lastTheme? (cs ++ [.theme s]) = some s := by simp [lastTheme?, Change.theme?]
    have hendpoint : lastEndpoint? (cs ++ [.theme s]) = lastEndpoint? cs := by
      simp [lastEndpoint?, Change.endpoint?]
    refine ⟨?_, ?_, fun name hrecords hdisplay => ?_⟩
    · rw [get?_applied_of_ne happlied hne.symm, hendpoint, hkept.records]
    · obtain ⟨display, hsection, rfl⟩ := exists_of_applied_theme happlied
      -- the section of the theme is new or has the old theme in it, and nothing else
      have hone : Fields.set themeKey (.string s) display = [(themeKey, .string s)] := by
        unfold section? at hsection
        rw [hkept.display] at hsection
        cases hold : lastTheme? cs with
        | none =>
          rw [hold] at hsection
          cases hsection
          rfl
        | some old =>
          rw [hold] at hsection
          cases hsection
          rfl
      rw [Fields.get?_set_self, hlast, hone]
      rfl
    · rw [get?_applied_of_ne happlied hdisplay, hkept.others name hrecords hdisplay]

/-! ## Saving again and again -/

/-- Saves one setting after the other, with the answers. -/
def saveAll (home : Home) (cs : List Change) : Action (List Bool) :=
  cs.mapM fun c : Change => c.save home

/-- A home directory in which plain settings can be saved, and what the changes so far have left in it. -/
structure SavedIn (home : Home) (cs : List Change) (h : Host) (fields : Table) : Prop where
  counts : Counts h home fields
  plain : Plain fields
  storable : h.files.Storable home.config
  kept : Kept cs fields
  held : cs ≠ [] → Holds h home (.ok fields)

theorem savedIn_nil (hlacks : home.Lacks h.files "config.toml") : SavedIn home [] h [] where
  counts := by
    refine .inr ⟨rfl, .inl fun bytes hread => ?_⟩
    have hthere := FileTree.contains_of_read hread
    rw [Home.config, hlacks.not_contains (by decide)] at hthere
    cases hthere
  plain := ⟨by simp, by simp, List.nodup_nil⟩
  storable := hlacks.storable (by decide)
  kept := kept_nil
  held hne := absurd rfl hne

theorem SavedIn.settings_eq (hsaved : SavedIn home cs h fields) :
    ((settings home).run h).1 = .ok (settingsAfter cs) := by
  rw [← hsaved.kept.taken_eq]
  exact settings_of_counts hsaved.plain hsaved.counts

theorem SavedIn.save (hsaved : SavedIn home cs h fields) (htext : PlainString c.text) :
    ∃ h' fields', (c.save home).run h = (.ok true, h') ∧ SavedIn home (cs ++ [c]) h' fields' := by
  have htrue := saved_of_plain hsaved.counts hsaved.plain htext hsaved.storable
  have houtcome := outcome c home h
  rw [htrue] at houtcome
  obtain ⟨before, after, text, hcounts, happlied, htoText, hread⟩ := houtcome.written
  obtain rfl := hsaved.counts.unique hcounts
  have hplain := plain_applied hsaved.plain htext happlied
  have hholds := holds_of_written hplain htoText hread
  exact ⟨_, after, Prod.ext htrue rfl,
    ⟨.inl hholds, hplain, .of_read hread, hsaved.kept.applied happlied, fun _ => hholds⟩⟩

theorem SavedIn.saveAll (hsaved : SavedIn home done h fields) (htexts : ∀ c ∈ cs, PlainString c.text) :
    ∃ h' fields', (saveAll home cs).run h = (.ok (cs.map fun _ => true), h') ∧
      SavedIn home (done ++ cs) h' fields' := by
  unfold Config.saveAll
  induction cs generalizing done h fields with
  | nil => exact ⟨h, fields, rfl, by rwa [List.append_nil]⟩
  | cons c cs ih =>
    obtain ⟨htext, htexts⟩ := List.forall_mem_cons.mp htexts
    obtain ⟨next, changed, hrun, hnext⟩ := hsaved.save htext
    obtain ⟨h', fields', hruns, hsaved'⟩ := ih hnext htexts
    refine ⟨h', fields', ?_, by simpa using hsaved'⟩
    rw [List.mapM_cons, run_bind, hrun]
    dsimp only
    rw [run_bind, hruns]
    rfl

theorem not_isInvisible_of_isAlphanum {x : Char} (hx : x.isAlphanum) : ¬ Text.isInvisible x := by
  obtain ⟨hlow, hhigh⟩ := Toml.toNat_of_isAlphanum hx
  unfold Text.isInvisible
  rw [if_pos (by omega), Bool.or_eq_true, decide_eq_true_eq, decide_eq_true_eq]
  omega

/-- Letters, digits and these marks make a plain string. -/
theorem plainString_of_ordinary {s : Text} (hs : ∀ x ∈ s, x.isAlphanum ∨ x ∈ " -_.:/()".toList) :
    PlainString s := by
  have marks : (" -_.:/()".toList.all fun x => !Text.isInvisible x && x != '\\' && x != '"') = true := rfl
  refine Toml.plainString_of_all (List.all_eq_true.mpr fun x hx => ?_)
  rcases hs x hx with halnum | hmark
  · have hne : x ≠ '\\' ∧ x ≠ '"' := by
      constructor
      · rintro rfl
        exact absurd halnum (by decide)
      · rintro rfl
        exact absurd halnum (by decide)
    simp [not_isInvisible_of_isAlphanum halnum, hne]
  · exact List.all_eq_true.mp marks x hmark

/-- Settings that are saved one after the other where there is no configuration are all saved. Whichever
was the last to be saved, the settings that are loaded then have the last address and the last theme, and
the standard delays. The file has just the sections of these two; there is none for an empty address. -/
theorem settings_after_saves (home : Home) (h : Host) (cs : List Change) (hlacks : home.Lacks h.files "config.toml")
    (htexts : ∀ c ∈ cs, ∀ x ∈ c.text, x.isAlphanum ∨ x ∈ " -_.:/()".toList) :
    ∃ h', (saveAll home cs).run h = (.ok (cs.map fun _ => true), h') ∧
      ((settings home).run h').1 = .ok {
        endpoint := (lastEndpoint? cs).getD []
        colorTheme := (lastTheme? cs).getD ({} : Settings).colorTheme } ∧
      (cs ≠ [] → ∃ fields, Holds h' home (.ok fields) ∧ Kept cs fields) := by
  have hplain : ∀ c ∈ cs, PlainString c.text := fun c hc => plainString_of_ordinary (htexts c hc)
  obtain ⟨h', fields, hrun, hsaved⟩ := (savedIn_nil hlacks).saveAll hplain
  rw [List.nil_append] at hsaved
  exact ⟨h', hrun, hsaved.settings_eq, fun hne => ⟨fields, hsaved.held hne, hsaved.kept⟩⟩

/-- An address that is taken back leaves the theme that was saved before it. -/
theorem theme_kept_without_address :
    ∃ h', (saveAll ⟨⟨[], ["home".toList]⟩⟩ [.endpoint "http://localhost:8000".toList,
        .theme "Solarized Light".toList, .endpoint []]).run {} = (.ok [true, true, true], h') ∧
      ((settings ⟨⟨[], ["home".toList]⟩⟩).run h').1 = .ok { colorTheme := "Solarized Light".toList } := by
  have hlacks : Home.Lacks ⟨⟨[], ["home".toList]⟩⟩ ({} : Host).files "config.toml" := ⟨_, _, ⟨rfl, rfl, rfl⟩, rfl⟩
  obtain ⟨h', hrun, hsettings, -⟩ := settings_after_saves ⟨⟨[], ["home".toList]⟩⟩ {}
    [.endpoint "http://localhost:8000".toList, .theme "Solarized Light".toList, .endpoint []] hlacks
    (by simp [Change.text])
  exact ⟨h', hrun, hsettings⟩

end Kudos.Config
