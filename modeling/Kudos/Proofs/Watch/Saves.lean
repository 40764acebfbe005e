import Mathlib
import Kudos.Proofs.Files.Tree
import Kudos.Proofs.Watch.Coherence

/-!
# When a save is reported

A file is written and read again, over and over. The user is told of a new import at a reload if the
saved text has more import statements than the one that was checked last, and a text is checked only
if a newline was inserted on the way to it. The opening is no check, so what was there from the start
is reported like what was added.
-/

namespace Kudos.Watch

variable {w w₀ : Watch} {desk : Desk} {count : Text → Nat} {n n₀ : Nat} {a b : Text} {ts : List Text}
  {bytes : List UInt8}

/-- Whether a newline is inserted on the way from one text to another. -/
def Inserts (old new : Text) : Prop :=
  ∃ e ∈ Diff.edits old new, '\n' ∈ e.text

/-- The number of import statements in a text. -/
def importCount (language : String) (t : Text) : Nat :=
  (Detector.statements { text := t, language }).length

/-- Whether `n` is the number of statements that the last check saw, when texts were saved one after
the other and `n₀` was the number before. -/
def Remembered (count : Text → Nat) (n₀ : Nat) (ts : List Text) (n : Nat) : Prop :=
  (∃ xs a b ys, ts = xs ++ a :: b :: ys ∧ Inserts a b ∧ (b :: ys).IsChain (¬ Inserts · ·) ∧
      n = count b) ∨
    (ts.IsChain (¬ Inserts · ·) ∧ n = n₀)

/-- Whether a text has more statements than the last check saw, and is checked. -/
def Due (count : Text → Nat) (n₀ : Nat) (ts : List Text) (t : Text) : Prop :=
  ∃ last n, ts.getLast? = some last ∧ Inserts last t ∧ Remembered count n₀ ts n ∧ n < count t

/-- The events of saves with a reload after each of them. -/
def saves (path : Path) (cs : List (List UInt8)) : List Event :=
  cs.flatMap fun c => [.written path c, .reloaded]

/-! ## The last check -/

theorem remembered_singleton : Remembered count n₀ [a] n ↔ n = n₀ := by
  constructor
  · rintro (⟨xs, x, y, ys, hts, -⟩ | ⟨-, hn⟩)
    · have := congrArg List.length hts
      simp at this
      omega
    · exact hn
  · exact fun hn => .inr ⟨.singleton a, hn⟩

theorem isChain_concat (hts : ts.getLast? = some a) :
    (ts ++ [b]).IsChain (¬ Inserts · ·) ↔ ts.IsChain (¬ Inserts · ·) ∧ ¬ Inserts a b := by
  rw [List.isChain_append]
  simp [hts]

/-- The last text decides, unless it is not checked. -/
theorem remembered_concat (hts : ts.getLast? = some a) : Remembered count n₀ (ts ++ [b]) n ↔
    (Inserts a b ∧ n = count b) ∨ (¬ Inserts a b ∧ Remembered count n₀ ts n) := by
  constructor
  · rintro (⟨xs, x, y, ys, heq, hins, hchain, hn⟩ | ⟨hchain, hn⟩)
    · -- the last check was of the new text, or of one before it
      rcases List.eq_nil_or_concat ys with rfl | ⟨ys, z, rfl⟩
      · have heq' : ts ++ [b] = (xs ++ [x]) ++ [y] := by simpa using heq
        obtain ⟨rfl, hlast⟩ := List.append_inj' heq' rfl
        obtain rfl : b = y := by simpa using hlast
        obtain rfl : x = a := by simpa using hts
        exact .inl ⟨hins, hn⟩
      · have heq' : ts ++ [b] = (xs ++ x :: y :: ys) ++ [z] := by simpa using heq
        obtain ⟨rfl, hlast⟩ := List.append_inj' heq' rfl
        obtain rfl : b = z := by simpa using hlast
        have hbehind : (y :: ys).getLast? = some a := by simpa using hts
        have hsplit : (y :: ys ++ [b]).IsChain (¬ Inserts · ·) := by simpa using hchain
        obtain ⟨hchain', hab⟩ := (isChain_concat hbehind).mp hsplit
        exact .inr ⟨hab, .inl ⟨xs, x, y, ys, rfl, hins, hchain', hn⟩⟩
    · obtain ⟨hchain', hab⟩ := (isChain_concat hts).mp hchain
      exact .inr ⟨hab, .inr ⟨hchain', hn⟩⟩
  · rintro (⟨hins, hn⟩ | ⟨hab, ⟨xs, x, y, ys, rfl, hins, hchain, hn⟩ | ⟨hchain, hn⟩⟩)
    · obtain ⟨zs, rfl⟩ := List.getLast?_eq_some_iff.mp hts
      exact .inl ⟨zs, a, b, [], by simp, hins, .singleton b, hn⟩
    · have hbehind : (y :: ys).getLast? = some a := by simpa using hts
      exact .inl ⟨xs, x, y, ys ++ [b], by simp, hins, (isChain_concat hbehind).mpr ⟨hchain, hab⟩, hn⟩
    · exact .inr ⟨(isChain_concat hts).mpr ⟨hchain, hab⟩, hn⟩

/-! ## One save -/

theorem inserts_iff {old new : Text} :
    Inserts old new ↔ (Diff.edits old new).any Edit.insertsNewline := by
  simp [Inserts, Edit.insertsNewline]

/-- What a reload does to the detector and to the host, whether it finds anything new or not. -/
theorem detector_reloaded (h : Steady w₀ true w) (hread : w.desk.host.files.read w.path = .ok bytes) :
    let checked := w.desk.session.detector.edited (w.renewed bytes)
      (Diff.edits w.buffer.document.text (textOf bytes))
    (w.step .reloaded).desk.session.detector = checked.1 ∧
      (w.step .reloaded).desk.host = (if checked.2 then
        ((w.desk.session.notifier.inform Detector.newImportMessage none).run w.desk.host).2
      else w.desk.host) ∧
      (w.step .reloaded).buffer.document.text = textOf bytes := by
  intro checked
  rw [step_reloaded, hread]
  dsimp only
  by_cases htext : textOf bytes = w.buffer.document.text
  · have hsame : checked = (w.desk.session.detector, false) := by
      show w.desk.session.detector.edited _ _ = _
      rw [Diff.edits_eq_nil_iff.mpr htext.symm]
      rfl
    rw [if_pos htext, hsame]
    exact ⟨rfl, rfl, htext.symm⟩
  · rw [if_neg htext]
    refine ⟨?_, host_accept w _, rfl⟩
    rw [session_accept_of_active h.active_eq]
    rfl

/-! ## Saves one after the other -/

/-- Where a watcher stands after these texts were saved, the first of which it was opened with. -/
structure Saved (w₀ : Watch) (ts : List Text) (w : Watch) : Prop where
  steady : Steady w₀ true w
  readable : ∃ bytes, w.desk.host.files.read w₀.path = .ok bytes
  last_eq : ts.getLast? = some w.buffer.document.text
  remembered_iff : ∀ n, Remembered (importCount w₀.buffer.document.language)
    w₀.desk.session.detector.count ts n ↔ n = w.desk.session.detector.count

theorem Saved.written (h : Saved w₀ ts w) (hpath : w₀.path.Resolved) (bytes : List UInt8) :
    Saved w₀ ts (w.step (.written w₀.path bytes)) ∧
      (w.step (.written w₀.path bytes)).desk.host.files.read w₀.path = .ok bytes := by
  obtain ⟨old, hold⟩ := h.readable
  obtain ⟨files, hstore, hread⟩ := FileTree.read_store hpath hold bytes
  have hfiles : (w.step (.written w₀.path bytes)).desk.host.files = files := by
    show (w.desk.host.files.store w₀.path bytes).toOption.getD w.desk.host.files = files
    rw [hstore]
    rfl
  rw [← hfiles] at hread
  obtain ⟨hpath', hlanguage, hnotifier, hactive, hcoherent, halarms⟩ := h.steady
  exact ⟨⟨⟨hpath', hlanguage, hnotifier, hactive, hcoherent, halarms⟩, ⟨bytes, hread⟩, h.last_eq,
    h.remembered_iff⟩, hread⟩

/-- A text is checked exactly if a newline was inserted. -/
theorem Saved.checked_eq (h : Saved w₀ ts w) (hlanguage : w₀.buffer.document.language.isEmpty = false)
    (bytes : List UInt8) :
    let old := w.buffer.document.text
    let count := importCount w₀.buffer.document.language (textOf bytes)
    let checked := w.desk.session.detector.edited (w.renewed bytes) (Diff.edits old (textOf bytes))
    (Inserts old (textOf bytes) →
      checked = (⟨count⟩, decide (w.desk.session.detector.count < count))) ∧
    (¬ Inserts old (textOf bytes) → checked = (w.desk.session.detector, false)) := by
  intro old count checked
  have hcount : (Detector.statements (w.renewed bytes)).length = count := by
    have htag : (w.renewed bytes).language = w₀.buffer.document.language := by
      rw [language_renewed (by rw [h.steady.language_eq, hlanguage]), h.steady.language_eq]
    unfold Detector.statements
    rw [htag]
    rfl
  constructor
  · intro hins
    show w.desk.session.detector.edited _ _ = _
    rw [Detector.edited, if_pos (inserts_iff.mp hins), Detector.check, hcount]
  · intro hins
    show w.desk.session.detector.edited _ _ = _
    rw [Detector.edited, if_neg fun hany => hins (inserts_iff.mpr hany)]

theorem Saved.reloaded (h : Saved w₀ ts w) (hlanguage : w₀.buffer.document.language.isEmpty = false)
    (hread : w.desk.host.files.read w₀.path = .ok bytes) :
    Saved w₀ (ts ++ [textOf bytes]) (w.step .reloaded) := by
  obtain ⟨hdetector, hhost, htext⟩ :=
    detector_reloaded h.steady (by rw [h.steady.path_eq, hread])
  obtain ⟨hins, hskip⟩ := h.checked_eq hlanguage bytes
  refine ⟨h.steady.reloaded hlanguage, ⟨bytes, ?_⟩, by simp [htext], fun n => ?_⟩
  · rw [hhost]
    split
    · obtain ⟨host, hinform, hfiles⟩ :=
        Session.run_inform_newImport w.desk.session.notifier w.desk.host
      rw [hinform]
      dsimp only
      rw [hfiles, hread]
    · exact hread
  · rw [remembered_concat h.last_eq, hdetector]
    by_cases hnew : Inserts w.buffer.document.text (textOf bytes)
    · rw [hins hnew]
      simp [hnew]
    · rw [hskip hnew]
      simp [hnew, h.remembered_iff]

theorem Saved.host_reloaded (h : Saved w₀ ts w)
    (hlanguage : w₀.buffer.document.language.isEmpty = false)
    (hread : w.desk.host.files.read w₀.path = .ok bytes) :
    let due := Due (importCount w₀.buffer.document.language) w₀.desk.session.detector.count ts
      (textOf bytes)
    (due → (w.step .reloaded).desk.host =
        ((w.desk.session.notifier.inform Detector.newImportMessage none).run w.desk.host).2) ∧
      (¬ due → (w.step .reloaded).desk.host = w.desk.host) := by
  intro due
  obtain ⟨-, hhost, -⟩ := detector_reloaded h.steady (by rw [h.steady.path_eq, hread])
  obtain ⟨hins, hskip⟩ := h.checked_eq hlanguage bytes
  constructor
  · rintro ⟨t, n, hlast, hnew, hn, hlt⟩
    obtain rfl : w.buffer.document.text = t := Option.some_inj.mp (h.last_eq.symm.trans hlast)
    obtain rfl := (h.remembered_iff n).mp hn
    rw [hhost, hins hnew, if_pos (by simpa using hlt)]
  · intro hdue
    rw [hhost, if_neg]
    by_cases hnew : Inserts w.buffer.document.text (textOf bytes)
    · rw [hins hnew]
      intro hlt
      exact hdue ⟨_, _, h.last_eq, hnew, (h.remembered_iff _).mpr rfl, by simpa using hlt⟩
    · rw [hskip hnew]
      exact Bool.false_ne_true

theorem Saved.run (h : Saved w₀ ts w) (hpath : w₀.path.Resolved)
    (hlanguage : w₀.buffer.document.language.isEmpty = false) (cs : List (List UInt8)) :
    Saved w₀ (ts ++ cs.map textOf) (w.run (saves w₀.path cs)) := by
  induction cs generalizing ts w with
  | nil => simpa [saves] using h
  | cons c cs ih =>
    obtain ⟨hwritten, hread⟩ := h.written hpath c
    have hrun := ih (hwritten.reloaded hlanguage hread)
    rwa [List.append_assoc] at hrun

/-- What was opened counts as saved, but not as checked. -/
theorem saved_start (settings : Settings) (notifier : Notifier) (sink : Sink) (identity : Identity)
    (host : Host) (earlier : List Session.Event) {path : Path} {language : Option String}
    {delay : Number}
    (h : start? (Desk.run ⟨.start settings notifier sink identity, host⟩ earlier) path language delay =
      .ok w) :
    Saved w [w.buffer.document.text] w ∧ w.path.Resolved ∧ w.desk.session.notifier = notifier ∧
      w.desk.session.detector =
        (Desk.run ⟨.start settings notifier sink identity, host⟩ earlier).session.detector := by
  have hsteady := (steady_start settings notifier sink identity host earlier h).1
  have hnotifier := (Session.settings_run ⟨.start settings notifier sink identity, host⟩ earlier).2
  obtain ⟨bytes, hread, rfl⟩ := start?_eq_ok h
  refine ⟨⟨hsteady, ⟨bytes, hread⟩, rfl, fun n => remembered_singleton⟩,
    FileTree.resolved_resolve _ _, ?_, Session.detector_checkKeyword _⟩
  set desk := Desk.run ⟨.start settings notifier sink identity, host⟩ earlier
  have hopened := (Session.settings_effect desk.session
    (.opened ⟨0, .ofBytes (desk.host.files.resolve path) language bytes⟩)).2
  exact hopened.trans hnotifier

/-- When texts are saved one after the other, the user is told of a new import at a reload exactly if
a newline was inserted since the text before, and there are more import statements than at the last
check. The first check compares with the number that the session had before the file was opened. -/
theorem informed_of_saves (settings : Settings) (notifier : Notifier) (sink : Sink)
    (identity : Identity) (host : Host) (earlier : List Session.Event) (path : Path)
    (language : Option String) (delay : Number) (w₀ : Watch)
    (hopen : start? (Desk.run ⟨.start settings notifier sink identity, host⟩ earlier) path language
      delay = .ok w₀) (cs : List (List UInt8)) (c : List UInt8) :
    let n₀ := (Desk.run ⟨.start settings notifier sink identity, host⟩ earlier).session.detector.count
    let w := (w₀.run (saves w₀.path cs)).step (.written w₀.path c)
    let due := Due (importCount w₀.buffer.document.language) n₀
      (w₀.buffer.document.text :: cs.map textOf) (textOf c)
    (due → (w.step .reloaded).desk.host =
        ((notifier.inform Detector.newImportMessage none).run w.desk.host).2) ∧
      (¬ due → (w.step .reloaded).desk.host = w.desk.host) := by
  intro n₀ w due
  have hlanguage := (steady_start settings notifier sink identity host earlier hopen).2
  obtain ⟨hstart, hpath, hnotifier, hdetector⟩ :=
    saved_start settings notifier sink identity host earlier hopen
  obtain ⟨h, hread⟩ := (hstart.run hpath hlanguage cs).written hpath c
  have hhost := h.host_reloaded hlanguage hread
  rw [h.steady.notifier_eq, hnotifier, hdetector] at hhost
  exact hhost

/-- An import is added at the second save, and the user is told once. -/
theorem informed_of_added_import :
    let file : Path := .ofText "/app.py".toList
    let texts := ("x = 1\n".toList, "x = 2\n".toList, "import os\nx = 2\n".toList)
    let desk : Desk :=
      { session := .start {} (.recording false) (.memory fun _ => none) ⟨⟨[], []⟩, none⟩
        host := { files := { entries := [(file.names, .file (Utf8.encode texts.1))] } } }
    ∃ w₀, start? desk file none (.whole 1) = .ok w₀ ∧
      let w := (w₀.run (saves w₀.path [Utf8.encode texts.2.1])).step
        (.written w₀.path (Utf8.encode texts.2.2))
      w.desk.host.notices = [] ∧
        (w.step .reloaded).desk.host.notices = [.shown Detector.newImportMessage none] := by
  intro file texts desk
  let w₀ : Watch :=
    { path := file
      buffer := ⟨0, { text := texts.1, language := "python", path := some file.text }⟩
      debounce := { delay := .whole 1, purpose := .reload }
      desk := desk.step
        (.opened ⟨0, { text := texts.1, language := "python", path := some file.text }⟩) }
  have hopen : start? desk file none (.whole 1) = .ok w₀ := rfl
  have htext : w₀.buffer.document.text = texts.1 := rfl
  have htag : w₀.buffer.document.language = "python" := rfl
  have hsilent : ((w₀.run (saves w₀.path [Utf8.encode texts.2.1])).step
      (.written w₀.path (Utf8.encode texts.2.2))).desk.host.notices = [] := by
    decide +kernel
  clear_value w₀
  have hchanged : Inserts texts.1 (textOf (Utf8.encode texts.2.1)) :=
    inserts_iff.mpr (by decide +kernel)
  have hadded : Inserts (textOf (Utf8.encode texts.2.1)) (textOf (Utf8.encode texts.2.2)) :=
    inserts_iff.mpr (by decide +kernel)
  have hdue : Due (importCount w₀.buffer.document.language) 0
      (w₀.buffer.document.text :: [Utf8.encode texts.2.1].map textOf)
      (textOf (Utf8.encode texts.2.2)) := by
    rw [htext, htag]
    exact ⟨_, 0, rfl, hadded,
      .inl ⟨[], _, _, [], rfl, hchanged, .singleton _, by decide +kernel⟩, by decide +kernel⟩
  have htold := (informed_of_saves {} (.recording false) (.memory fun _ => none) ⟨⟨[], []⟩, none⟩
    desk.host [] file none (.whole 1) w₀ hopen [Utf8.encode texts.2.1]
    (Utf8.encode texts.2.2)).1 hdue
  refine ⟨w₀, hopen, hsilent, ?_⟩
  rw [htold]
  exact congrArg (Notice.shown Detector.newImportMessage none :: ·) hsilent

/-- The number of statements before and after a save does not decide: the user is told of an import
that was there at the opening, and not of one that is added without a newline. -/
theorem informed_of_same_count :
    let file : Path := .ofText "/app.py".toList
    let desk (t : String) : Desk :=
      { session := .start {} (.recording false) (.memory fun _ => none) ⟨⟨[], []⟩, none⟩
        host := { files := { entries := [(file.names, .file (Utf8.encode t.toList))] } } }
    ∃ w₀ w₁, start? (desk "import os\n") file none (.whole 1) = .ok w₀ ∧
      start? (desk "x = 1") file none (.whole 1) = .ok w₁ ∧
      importCount "python" "import os\n".toList = 1 ∧
      importCount "python" "import os\nx = 1\n".toList = 1 ∧
      (w₀.run (saves file [Utf8.encode "import os\nx = 1\n".toList])).desk.host.notices =
        [.shown Detector.newImportMessage none] ∧
      importCount "python" "x = 1".toList = 0 ∧ importCount "python" "import os".toList = 1 ∧
      (w₁.run (saves file [Utf8.encode "import os".toList])).desk.host.notices = [] := by
  intro file desk
  refine ⟨_, _, rfl, rfl, by decide +kernel, by decide +kernel, by decide +kernel, by decide +kernel,
    by decide +kernel, by decide +kernel⟩

end Kudos.Watch
