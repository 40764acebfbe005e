import Mathlib
import Kudos.Proofs.CommandLine.Agreement
import Kudos.Proofs.Display.Markup

/-!
# How a scan with a listing ends

The listing itself is printed as it is, but the bound names end up in a message with markup. So a scan
succeeds exactly if nothing is flagged or the names, taken as markup, can be shown (`listing_outcome`),
whatever the console makes of styles; a name such as `[/a]`, which closes a style that is not open,
cannot. Names without brackets and colons are printed as they are.
-/

namespace Kudos.Command

open Text Session

variable {home : Home} {h : Host} {d : Document} {a : Analysis} {words : List Text}
  {onlyFlagged : Bool} {shown : Text} {s : Markup.Styles}

/-- The bound names, as they stand in the summary of a scan. -/
def joinedNames (a : Analysis) : Text :=
  join [',', ' '] a.boundNames

/-- What a summary shows for the names. -/
def namesOrDash (a : Analysis) : Text :=
  if (joinedNames a).isEmpty then ['-'] else joinedNames a

/-- What a summary shows between the check mark and the names. -/
def countsText (a : Analysis) : Text :=
  [' '] ++ ofNat a.lines.length ++ " flagged line(s), ".toList ++ ofNat a.statementLines.length ++
    " import statement(s). Names".toList ++ [':', ' ']

/-- What a summary shows before the names. -/
def beforeNames (a : Analysis) : Text :=
  '✓' :: countsText a

/-! ## The summary -/

theorem isPlain_ofNat (n : Nat) : Markup.IsPlain (ofNat n) := by
  refine Markup.isPlain_of_isOrdinary (List.all_eq_true.mpr fun c hc => ?_)
  have hdigit := isDigit_of_mem_ofNat hc
  have hne : ∀ e : Char, ¬ e.isDigit → c ≠ e := by
    rintro e he rfl
    exact he hdigit
  have hlow := (Char.isDigit_iff_toNat.mp hdigit).1
  have hvisible : 31 < c.toNat := Nat.lt_of_lt_of_le (by decide) hlow
  simp [Markup.isOrdinary, hne '[' (by decide), hne '\\' (by decide), hne ':' (by decide), hvisible]

theorem isPlain_countsText (a : Analysis) : Markup.IsPlain (countsText a) := by
  have word : ∀ t : Text, t.all Markup.isOrdinary → Markup.IsPlain t :=
    fun _ => Markup.isPlain_of_isOrdinary
  exact (((((word [' '] (by decide)).append (isPlain_ofNat _)).append (word _ (by decide +kernel))).append
    (isPlain_ofNat _)).append (word _ (by decide +kernel))).append Markup.isPlain_colon

/-- The summary shows the counts and, as markup, the names. -/
theorem plain?_summary (himport : a.hasImport) (s : Markup.Styles) :
    Markup.plain? s (summary d a) = (Markup.plain? s (namesOrDash a)).map (beforeNames a ++ ·) := by
  have split : summary d a = ('[' :: 'g' :: "reen".toList ++ [']']) ++ (['✓'] ++
      (('[' :: '/' :: 'g' :: "reen".toList ++ [']']) ++ (countsText a ++ namesOrDash a))) := by
    unfold summary countsText namesOrDash joinedNames
    rw [if_pos himport]
    simp
  have hletters : ∀ e ∈ 'g' :: "reen".toList, Markup.isLetter e := by simp [Markup.isLetter]
  rw [split, Markup.plain?_styled hletters (Markup.isPlain_of_isOrdinary (by decide)),
    Markup.plain?_append (isPlain_countsText a), Option.map_map]
  rfl

/-- The summary of a document without imports can always be shown. -/
theorem isSome_plain?_summary (himport : a.hasImport = false)
    (hlanguage : d.language.toList.all Markup.isOrdinary) (s : Markup.Styles) :
    (Markup.plain? s (summary d a)).isSome := by
  have split : summary d a = ('[' :: 'd' :: "im".toList ++ [']']) ++
      (("No library imports found (".toList ++ d.language.toList ++ ").".toList) ++
        (('[' :: '/' :: 'd' :: "im".toList ++ [']']) ++ [])) := by
    unfold summary
    rw [if_neg (by simp [himport])]
    simp
  have word : ∀ t : Text, t.all Markup.isOrdinary → Markup.IsPlain t :=
    fun _ => Markup.isPlain_of_isOrdinary
  have hletters : ∀ e ∈ 'd' :: "im".toList, Markup.isLetter e := by simp [Markup.isLetter]
  rw [split, Markup.plain?_styled hletters
    (((word _ (by decide +kernel)).append (word _ hlanguage)).append (word _ (by decide +kernel))),
    Markup.plain?_of_not_mem (by simp)]
  rfl

/-! ## The run -/

/-- The listing that a scan of a document prints. -/
def listingText (home : Home) (d : Document) (onlyFlagged : Bool) : Text :=
  Listing.print Notifier.consoleWidth d ((newWith home (.console none)).refresh d).decorations onlyFlagged

/-- Behind the listing the summary is printed, if it can be. -/
theorem run_listing (hconfig : h.files.contains home.config = false)
    (hwords : ofWords h.files words = .ok (.scan d (.listing onlyFlagged))) :
    run home words h =
      match Markup.print? h.styles Notifier.consoleWidth (summary d (Analysis.ofDocument d)) with
      | none => (.fault .badMarkup, h.print (listingText home d onlyFlagged))
      | some shown => (.success, (h.print (listingText home d onlyFlagged)).print shown) := by
  have hscan : ((Command.scan d (.listing onlyFlagged)).perform home).run h =
      ((sayMarked (summary d (Analysis.ofDocument d)) >>= fun _ => pure Ending.success).run
        (h.print (listingText home d onlyFlagged))) := by
    unfold perform runScan
    rw [run_bind, run_newSession hconfig]
    rfl
  unfold run
  rw [hwords]
  dsimp only
  rw [hscan, run_bind]
  unfold sayMarked
  rw [Notifier.run_print]
  have hstyles : (h.print (listingText home d onlyFlagged)).styles = h.styles := rfl
  rw [hstyles]
  cases Markup.print? h.styles Notifier.consoleWidth (summary d (Analysis.ofDocument d)) <;> rfl

/-- A file has one of the known languages, unless another one is asked for. -/
theorem language_ofBytes {tag? : Option Text} (htag : ∀ tag ∈ tag?, isLanguage tag) (path : Path)
    (bytes : List UInt8) : (Document.ofBytes path (tag?.map String.ofList) bytes).language ∈
      Language.other :: Language.supported := by
  have byPath : Language.ofPath path ∈ Language.other :: Language.supported := by
    have known : ∀ e ∈ Language.extensions, e.2 ∈ Language.other :: Language.supported := by decide
    unfold Language.ofPath
    dsimp only
    split
    · next extension tag hfind => exact known _ (List.mem_of_find?_eq_some hfind)
    · exact List.mem_cons_self
  cases tag? with
  | none => exact byPath
  | some tag =>
    obtain ⟨language, hlanguage, heq⟩ := List.any_eq_true.mp (htag tag rfl)
    obtain rfl : language.toList = tag := of_decide_eq_true heq
    unfold Document.ofBytes
    simp only [Option.map_some]
    split
    · exact byPath
    · rwa [String.ofList_toList]

/-- A summary can be shown exactly if there is nothing to name or the names can be shown. -/
theorem isSome_plain?_summary_iff (hlanguage : d.language ∈ Language.other :: Language.supported) :
    (Markup.plain? s (summary d a)).isSome ↔
      a.hasImport = false ∨ (Markup.plain? s (joinedNames a)).isSome := by
  have ordinary : ∀ l ∈ Language.other :: Language.supported, l.toList.all Markup.isOrdinary := by
    decide +kernel
  cases himport : a.hasImport with
  | false => simp [isSome_plain?_summary himport (ordinary _ hlanguage)]
  | true =>
    rw [plain?_summary himport, Option.isSome_map]
    unfold namesOrDash
    split
    · next hempty =>
      rw [List.isEmpty_iff.mp hempty, Markup.plain?_of_not_mem (by simp),
        Markup.plain?_of_not_mem (by simp)]
      simp
    · simp

theorem exitCode_listing_iff (hconfig : h.files.contains home.config = false)
    (hwords : ofWords h.files words = .ok (.scan d (.listing onlyFlagged)))
    (hlanguage : d.language ∈ Language.other :: Language.supported) :
    (run home words h).1.exitCode = 0 ↔
      (Analysis.ofDocument d).hasImport = false ∨
        (Markup.plain? h.styles (joinedNames (Analysis.ofDocument d))).isSome := by
  rw [← isSome_plain?_summary_iff hlanguage, run_listing hconfig hwords, Markup.print?]
  cases Markup.plain? h.styles (summary d (Analysis.ofDocument d)) with
  | none => simp [Ending.exitCode]
  | some shown => simp [Ending.exitCode]

/-- What the names show as markup is printed behind the counts. -/
theorem run_listing_of_plain? (hconfig : h.files.contains home.config = false)
    (hwords : ofWords h.files words = .ok (.scan d (.listing onlyFlagged)))
    (himport : (Analysis.ofDocument d).hasImport)
    (hnames : Markup.plain? h.styles (namesOrDash (Analysis.ofDocument d)) = some shown) :
    run home words h = (.success, (h.print (listingText home d onlyFlagged)).print
      ((Wrap.lines Notifier.consoleWidth (beforeNames (Analysis.ofDocument d) ++ shown)).flatMap
        (· ++ ['\n']))) := by
  rw [run_listing hconfig hwords, Markup.print?, plain?_summary himport, hnames]
  rfl

/-- Names without a part in markup and controls are shown as they are. -/
theorem plain?_namesOrDash (hbracket : '[' ∉ joinedNames a) (hcolon : ':' ∉ joinedNames a)
    (hcontrol : Wrap.dropControls (joinedNames a) = joinedNames a) (s : Markup.Styles) :
    Markup.plain? s (namesOrDash a) = some (namesOrDash a) := by
  unfold namesOrDash
  split
  · exact Markup.plain?_eq_self (by decide) (by decide) (by decide) s
  · exact Markup.plain?_eq_self hbracket hcolon hcontrol s

end Kudos.Command
