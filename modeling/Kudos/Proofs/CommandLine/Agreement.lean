import Mathlib
import Kudos.Proofs.Analysis
import Kudos.Proofs.CommandLine.Printed
import Kudos.Proofs.CommandLine.Words
import Kudos.Proofs.Files.Home
import Kudos.Proofs.Session.Thanks

/-!
# The commands agree

The numbers that a scan prints, the lines that have a tooltip, and the lines that thanks can be said
for are the same. The three commands get there on different ways, so each of them is reduced to
`Flags`. A flagged line is there and is not empty, so saying thanks for it comes to its end: the record
of the new user and the response are stored, and the link to the form for a longer note is printed.
Without a flagged line nothing is stored at all.
-/

namespace Kudos.Command

open Text Session

variable {home : Home} {h h' : Host} {d : Document} {line : Int} {words : List Text} {c : Command}
  {openLinks : Bool} {n : Notifier}

/-- Whether a line, counted from one, is flagged. -/
def Flags (d : Document) (line : Int) : Prop :=
  ∃ k ∈ (Analysis.ofDocument d).lines, (k : Int) = line - 1

instance (d : Document) (line : Int) : Decidable (Flags d line) :=
  inferInstanceAs (Decidable (∃ k ∈ (Analysis.ofDocument d).lines, (k : Int) = line - 1))

/-- A command line does what its command does. -/
theorem snd_run (hwords : ofWords h.files words = .ok c) :
    (run home words h).2 = ((c.perform home).run h).2 := by
  unfold run
  rw [hwords]
  dsimp only
  rcases (c.perform home).run h with ⟨e | ending, h'⟩ <;> rfl

theorem fst_run (hwords : ofWords h.files words = .ok c) :
    (run home words h).1 =
      match ((c.perform home).run h).1 with
      | .ok ending => ending
      | .error cause => .fault cause := by
  unfold run
  rw [hwords]
  dsimp only
  rcases (c.perform home).run h with ⟨e | ending, h'⟩ <;> rfl

/-! ## The session of a command -/

/-- The identity that is kept in a home directory. -/
def identityIn (home : Home) : Identity :=
  ⟨home.state, some (.file home.records)⟩

/-- A session with the settings that hold without a configuration. -/
def newWith (home : Home) (n : Notifier) : Session :=
  .start {} n (.file home.records) (identityIn home)

theorem run_newSession (hconfig : h.files.contains home.config = false) (n : Notifier) :
    (newSession home n).run h = (.ok (newWith home n), h) := by
  have hload : (Config.load home).run h = (.ok [], h) := by
    unfold Config.load
    rw [run_bind]
    show ((if !h.files.contains home.config then pure [] else _ : Action Toml.Table)).run h = _
    rw [hconfig]
    rfl
  have hsettings : (Config.settings home).run h = (.ok {}, h) := by
    unfold Config.settings
    rw [run_bind, hload]
    rfl
  unfold newSession
  rw [run_bind, hsettings]
  rfl

theorem isFlagged_iff {s : Session} (hs : s.result = Analysis.ofDocument d) :
    s.isFlagged (line - 1) ↔ Flags d line := by
  unfold isFlagged Flags
  rw [hs]
  simp

/-! ## Scanning -/

theorem newline_not_mem_ofInt (k : Int) : '\n' ∉ ofInt k := by
  intro hmem
  rcases isDigit_of_mem_ofInt hmem with hminus | hdigit
  · exact absurd hminus (by decide)
  · exact absurd hdigit (by decide)

theorem scan_prints_iff (hline : 1 ≤ line) (hscan : ofWords h.files words = .ok (.scan d .linesOnly)) :
    h.PrintsLine (run home words h).2 (ofInt (line - 1)) ↔ Flags d line := by
  have hprints : h.Prints (run home words h).2 ((Analysis.ofDocument d).lines.map ofNat) := by
    have houtput : (run home words h).2.output =
        h.output ++ (Analysis.ofDocument d).lines.flatMap fun k => ofNat k ++ ['\n'] := by
      rw [snd_run hscan]
      rfl
    unfold Host.Prints joinedLines
    rw [houtput, List.flatMap_map]
  have hdigits : ∀ y ∈ (Analysis.ofDocument d).lines.map ofNat, '\n' ∉ y := by
    rintro y hy
    obtain ⟨k, -, rfl⟩ := List.mem_map.mp hy
    exact newline_not_mem_ofInt k
  rw [hprints.printsLine_iff hdigits (newline_not_mem_ofInt _)]
  obtain ⟨m, hm⟩ := Int.eq_ofNat_of_zero_le (show 0 ≤ line - 1 by omega)
  unfold Flags
  rw [hm, List.mem_map]
  refine exists_congr fun k => and_congr_right fun _ => ?_
  constructor
  · intro heq
    rw [ofNat_injective (m := m) heq]
  · intro heq
    rw [Int.ofNat.inj heq]
    rfl

/-! ## Tooltips -/

/-- The line that shows the tooltip of a line. -/
def tooltipText (line : Int) : Text :=
  aboutLine line (": ".toList ++ Message.hover)

theorem newline_not_mem_aboutLine {t : Text} (ht : '\n' ∉ t) (line : Int) : '\n' ∉ aboutLine line t := by
  have hname : '\n' ∉ "Line ".toList := by decide
  unfold aboutLine
  simp only [List.mem_append, not_or]
  exact ⟨⟨hname, newline_not_mem_ofInt line⟩, ht⟩

theorem run_runHover (hconfig : h.files.contains home.config = false) :
    (runHover home d line).run h = (.ok .success,
      h.print ((if ((newWith home (.console none)).refresh d).isFlagged (line - 1) then tooltipText line
        else aboutLine line ": no tooltip".toList) ++ ['\n'])) := by
  unfold runHover
  rw [run_bind, run_newSession hconfig]
  dsimp only
  unfold tooltip?
  cases ((newWith home (.console none)).refresh d).isFlagged (line - 1) <;> rfl

theorem hover_prints_iff (hconfig : h.files.contains home.config = false)
    (hhover : ofWords h.files words = .ok (.hover d line)) :
    h.PrintsLine (run home words h).2 (tooltipText line) ↔ Flags d line := by
  have hmessage : '\n' ∉ ": ".toList ++ Message.hover := by decide
  have hnone : '\n' ∉ ": no tooltip".toList := by decide
  have hdiffer : tooltipText line ≠ aboutLine line ": no tooltip".toList := by
    intro heq
    exact absurd (List.append_cancel_left heq) (by decide)
  have hflagged : ((newWith home (.console none)).refresh d).isFlagged (line - 1) ↔ Flags d line :=
    isFlagged_iff rfl
  have hprints : ∀ t, h.Prints (h.print (t ++ ['\n'])) [t] := by
    intro t
    simp [Host.Prints, Host.print, joinedLines]
  have hrun : (run home words h).2 = ((runHover home d line).run h).2 := snd_run hhover
  rw [hrun, run_runHover hconfig, ← hflagged]
  split
  · next hyes => exact iff_of_true ((hprints _).printsLine (by simp)) hyes
  · next hno =>
    refine iff_of_false (fun hline => hdiffer (List.mem_singleton.mp ?_)) hno
    refine ((hprints _).printsLine_iff (List.forall_mem_singleton.mpr ?_) ?_).mp hline
    · exact newline_not_mem_aboutLine hnone line
    · exact newline_not_mem_aboutLine hmessage line

/-! ## Thanks -/

/-- The session in which thanks are said. -/
def thanking (home : Home) (d : Document) : Session :=
  (newWith home (.console (some true))).switchTo (some (bufferOf d))

/-- A session that has opened a document is that of its analysis, and new otherwise. -/
theorem thanking_eq (home : Home) (d : Document) :
    ∃ reminder timers, thanking home d =
      { newWith home (.console (some true)) with
        active := some (bufferOf d)
        result := Analysis.ofDocument d
        decorations := decorate (Analysis.ofDocument d) (newWith home (.console (some true))).theme
        hasImport := (Analysis.ofDocument d).hasImport
        reminder, timers } := by
  unfold thanking switchTo
  exact checkKeyword_eq _

/-- Thanks for a line that is not flagged fail, with at most a message to the user. -/
theorem run_runThanks_of_not_flags (hconfig : h.files.contains home.config = false)
    (hno : ¬ Flags d line) (openLinks : Bool) :
    ∃ r h', (runThanks home d line true openLinks).run h = (r, h') ∧ h'.files = h.files ∧
      (r = .ok .failure ∨ r = .error .badMarkup) := by
  have failing : ∀ t : Text, ∃ r h', (sayMarked t >>= fun _ => pure Ending.failure).run h = (r, h') ∧
      h'.files = h.files ∧ (r = .ok .failure ∨ r = .error .badMarkup) := by
    intro t
    unfold sayMarked
    rw [run_bind, Notifier.run_print]
    cases Markup.print? h.styles Notifier.consoleWidth t with
    | none => exact ⟨_, _, rfl, rfl, .inr rfl⟩
    | some shown => exact ⟨_, _, rfl, rfl, .inl rfl⟩
  obtain ⟨reminder, timers, hs⟩ := thanking_eq home d
  have hflagged : (thanking home d).isFlagged (line - 1) = false := by
    rw [Bool.eq_false_iff, ne_eq, isFlagged_iff (d := d) (by rw [hs])]
    exact hno
  unfold thanking at hflagged
  unfold runThanks
  rw [if_pos rfl, run_bind, run_newSession hconfig]
  dsimp only
  rw [hflagged]
  cases ((newWith home (.console (some true))).switchTo (some (bufferOf d))).hasImport with
  | false => exact failing _
  | true => exact failing _

theorem content_of_isNew (hnew : home.IsNew h.files) : (identityIn home).content h = .ok [] := by
  unfold Identity.content
  cases hread : h.files.read (identityIn home).path with
  | error e => rfl
  | ok bytes => exact absurd hread (((hnew.lacks "state.json").vacant (by decide)).read_ne bytes)

theorem ready_thanking (hnew : home.IsNew h.files) (d : Document) :
    Ready (identityIn home) (.file home.records) none ⟨thanking home d, h⟩ := by
  have hholds : (identityIn home).Holds h [] :=
    ⟨(hnew.lacks "state.json").storable (by decide), content_of_isNew hnew⟩
  have hcountable : Countable none := by rintro v ⟨⟩
  obtain ⟨reminder, timers, hs⟩ := thanking_eq home d
  rw [hs]
  refine ⟨rfl, rfl, hcountable, ⟨[], hholds, fun _ => rfl, fun huser => absurd rfl huser⟩, ?_⟩
  rintro c ⟨⟩

/-- A new home directory knows no user. -/
theorem not_knowsUser (hnew : home.IsNew h.files) (d : Document) :
    ¬ KnowsUser (identityIn home) ⟨thanking home d, h⟩ := by
  obtain ⟨reminder, timers, hs⟩ := thanking_eq home d
  rintro (huser | ⟨fields, hholds, hid⟩)
  · rw [hs] at huser
    exact huser rfl
  · have hcontent := hholds.content
    rw [content_of_isNew hnew] at hcontent
    cases hcontent
    exact hid rfl

theorem run_follow (openLinks : Bool) (link? : Option Text) (h : Host) :
    ∃ h', (follow openLinks link?).run h = (.ok (), h') ∧ h'.files = h.files ∧
      h.Prints h' link?.toList := by
  cases link? with
  | none => exact ⟨h, rfl, rfl, .nil rfl⟩
  | some link =>
    have hprints : ∀ opened, h.Prints { h.print (link ++ ['\n']) with opened } [link] := by
      intro opened
      simp [Host.Prints, Host.print, joinedLines]
    cases openLinks with
    | false => exact ⟨_, rfl, rfl, hprints _⟩
    | true => exact ⟨_, rfl, rfl, hprints _⟩

theorem exists_lineAt_of_flags (hflags : Flags d line) :
    ∃ text, d.lineAt (line - 1) = .ok text ∧ text ≠ [] := by
  obtain ⟨k, hk, heq⟩ := hflags
  obtain ⟨text, htext, hne⟩ := Analysis.exists_line_of_mem_lines hk
  refine ⟨text, ?_, hne⟩
  rw [← heq, Document.lineAt, if_neg (by omega), Int.toNat_natCast, htext]

/-- What is written when a new user says thanks for a line. -/
def writtenThanks (line : Int) (text user : Text) (now : Timestamp) : Text :=
  Delivery.written ⟨Identity.usersCollection, Identity.userRecord user now⟩ ++
    Delivery.written ⟨responsesCollection, thanksRecord line text now user⟩

theorem deliveries_append_offer (ds : List Deed) (offered : Bool) (n : Notifier) (message action : Text) :
    Deed.deliveries (ds ++ if offered then [.asked n message action] else []) = Deed.deliveries ds := by
  cases offered <;> simp [Deed.deliveries, Deed.delivery?]

theorem run_lift_within {α : Type} (s : Session) (w : Work α) (h : Host) :
    (ExceptT.lift (within s w).run : Action (Except Fault α)).run h =
      (.ok (w.run ⟨s, h⟩).1, (w.run ⟨s, h⟩).2.host) := rfl

/-- The records of a new user and of thanks for a line whose number is not too long can be written. -/
theorem within_deeds (hshort : Identity.Short line) (text user : Text) (now : Timestamp) (h : Host) :
    ((Identity.userRecord user now).filed Identity.usersCollection).Within h.limits ∧
      ((thanksRecord line text now user).filed responsesCollection).Within h.limits := by
  obtain ⟨l, hl⟩ := Limits.inside?_ofRoom h.room
  have hstring : ∀ t : Text, (Json.ofText t).Within l := fun t => Json.within_string l _
  have hnumber : (Json.int line).Within l := (Identity.fits_int_iff (h := h)).mpr hshort l hl
  refine ⟨Record.within_filed hl ?_ _, Record.within_filed hl ?_ _⟩
  · simp [Identity.userRecord, Datum.toJson, hstring]
  · simp [thanksRecord, Datum.toJson, hstring, hnumber]

/-- Saying thanks for a flagged line in a new home directory writes down the user and the response, and
answers the link to the form for a longer note. -/
theorem run_sayThanks_of_flags (hnew : home.IsNew h.files) (hshort : Identity.Short line)
    (hflags : Flags d line) :
    ∃ o d' text user xs, (sayThanks d line).run ⟨thanking home d, h⟩ = (.ok o, d') ∧
      d.lineAt (line - 1) = .ok text ∧ text ≠ [] ∧
      d'.host.files.read home.records = .ok (Utf8.encode (writtenThanks line text user h.now)) ∧
      o.sayMoreLink = some (Form.url Form.sayMore user Form.sayMoreQuestion text) ∧
      h.Prints d'.host xs := by
  obtain ⟨text, htext, hne⟩ := exists_lineAt_of_flags hflags
  obtain ⟨reminder, timers, hs⟩ := thanking_eq home d
  have hfixed : (thanking home d).notifier.fixed? = some true := by rw [hs]; rfl
  have hspares : (Sink.file home.records).Spares home.state := Sink.spares_ofSetting home []
  have hapart : (identityIn home).Apart := by
    rintro sink ⟨⟩
    exact hspares
  rcases hrun : (sayThanks d line).run ⟨thanking home d, h⟩ with ⟨r, d'⟩
  obtain ⟨o, -, rfl, -, -, -, -, -, user, looked, hregisters, hrecord, hdoes, hlink⟩ :=
    of_run_sayThanks hapart hspares (ready_thanking hnew d) htext hrun fun _ => by simp [hfixed]
  -- the records
  have hstored : home.HoldsRecords d'.host.files
      (Utf8.encode (writtenThanks line text user h.now)) := by
    cases hregisters with
    | known hknown => exact absurd hknown (not_knowsUser hnew d)
    | new =>
      obtain ⟨huser, hthanks⟩ := within_deeds hshort text user h.now h
      have hresponse : (o.record.filed responsesCollection).Within h.limits := by rwa [hrecord]
      have hgrown : home.HoldsRecords d'.host.files _ := hdoes.holdsRecords
        (by cases o.surveyOffered <;>
          simp [identityIn, Identity.registering, Deed.Within, huser, hresponse]) hnew.holdsRecords
      rw [hrecord, deliveries_append_offer] at hgrown
      have hdeliveries : ([] ++ Utf8.encode (Delivery.written
          ⟨Identity.usersCollection, Identity.userRecord user h.now⟩ ++ (Delivery.written
            ⟨responsesCollection, thanksRecord line text h.now user⟩ ++ []))) =
          Utf8.encode (writtenThanks line text user h.now) := by
        rw [List.append_nil, List.nil_append, writtenThanks]
      exact hdeliveries ▸ hgrown
  -- the messages
  have htalks : Talks (fun _ => True) ⟨thanking home d, h⟩
      ((sayThanks d line).run ⟨thanking home d, h⟩).2 := leads_sayThanks d line trivial trivial _
  rw [hrun] at htalks
  obtain ⟨xs, hprints⟩ := Notifier.exists_prints_of_tells (by simp [hfixed]) htalks.2
  refine ⟨o, d', text, user, xs, rfl, htext, hne, ?_, hlink hfixed hne, hprints⟩
  rcases hstored with hread | ⟨hempty, -⟩
  · exact hread
  · have hnewline : Utf8.encodeChar '\n' ≠ [] := by decide
    simp [writtenThanks, Delivery.written, Utf8.encode, hnewline] at hempty

/-- Thanks for a flagged line succeed. -/
theorem run_runThanks_of_flags (hnew : home.IsNew h.files) (hshort : Identity.Short line)
    (hflags : Flags d line) (openLinks : Bool) :
    ∃ h' text user, (runThanks home d line true openLinks).run h = (.ok .success, h') ∧
      d.lineAt (line - 1) = .ok text ∧ text ≠ [] ∧
      h'.files.read home.records = .ok (Utf8.encode (writtenThanks line text user h.now)) ∧
      h.PrintsLine h' (Form.url Form.sayMore user Form.sayMoreQuestion text) := by
  obtain ⟨o, d', text, user, xs, hrun, htext, hne, hread, hlink, hprints⟩ :=
    run_sayThanks_of_flags (h := h) hnew hshort hflags
  obtain ⟨h₁, hfollow₁, hfiles₁, hprints₁⟩ := run_follow openLinks o.sayMoreLink d'.host
  obtain ⟨h₂, hfollow₂, hfiles₂, hprints₂⟩ := run_follow openLinks o.surveyLink h₁
  rw [hlink] at hprints₁
  refine ⟨h₂, text, user, ?_, htext, hne, by rw [hfiles₂, hfiles₁, hread], ?_⟩
  · obtain ⟨reminder, timers, hs⟩ := thanking_eq home d
    have hflagged : (thanking home d).isFlagged (line - 1) = true :=
      (isFlagged_iff (d := d) (by rw [hs])).mpr hflags
    have himport : (thanking home d).hasImport = true := by
      obtain ⟨k, hk, -⟩ := hflags
      rw [hs]
      exact (Bool.not_eq_true' _).mpr (List.isEmpty_eq_false_iff.mpr (List.ne_nil_of_mem hk))
    unfold thanking at hflagged himport hrun
    have hconfig := (hnew.lacks "config.toml").not_contains (by decide)
    unfold runThanks
    rw [if_pos rfl, run_bind, run_newSession hconfig]
    dsimp only
    rw [himport, hflagged, if_neg (by decide), if_neg (by decide), run_bind, run_lift_within, hrun]
    dsimp only
    rw [run_bind, hfollow₁]
    dsimp only
    rw [run_bind, hfollow₂]
    rfl
  · exact ((hprints.append hprints₁).append hprints₂).printsLine (by simp)

/-! ## Agreement -/

/-- Whether three command lines ask for the flagged lines of a document, the tooltip of one line, and
thanks for that line with every offer accepted. -/
structure Asks (files : FileTree) (d : Document) (line : Int) (scan hover thanks : List Text) : Prop where
  scan : ofWords files scan = .ok (.scan d .linesOnly)
  hover : ofWords files hover = .ok (.hover d line)
  thanks : ∃ openLinks, ofWords files thanks = .ok (.thanks d line true openLinks)

/-- How thanks end, by whether the line is flagged. -/
theorem thanks_spec (hnew : home.IsNew h.files) (hshort : Identity.Short line)
    (hthanks : ofWords h.files words = .ok (.thanks d line true openLinks)) :
    if Flags d line then
      (run home words h).1 = .success ∧ ∃ text user, d.lineAt (line - 1) = .ok text ∧ text ≠ [] ∧
        (run home words h).2.files.read home.records =
          .ok (Utf8.encode (writtenThanks line text user h.now)) ∧
        h.PrintsLine (run home words h).2 (Form.url Form.sayMore user Form.sayMoreQuestion text)
    else
      ((run home words h).1 = .failure ∨ (run home words h).1 = .fault .badMarkup) ∧
        (run home words h).2.files = h.files := by
  have hperform : (Command.thanks d line true openLinks).perform home =
      runThanks home d line true openLinks := rfl
  rw [fst_run hthanks, snd_run hthanks, hperform]
  split
  · next hflags =>
    obtain ⟨h', text, user, hrun, hrest⟩ := run_runThanks_of_flags hnew hshort hflags openLinks
    rw [hrun]
    exact ⟨rfl, text, user, hrest⟩
  · next hno =>
    have hconfig := (hnew.lacks "config.toml").not_contains (by decide)
    obtain ⟨r, h', hrun, hfiles, hr⟩ := run_runThanks_of_not_flags hconfig hno openLinks
    rw [hrun]
    rcases hr with rfl | rfl
    · exact ⟨.inl rfl, hfiles⟩
    · exact ⟨.inr rfl, hfiles⟩

end Kudos.Command
