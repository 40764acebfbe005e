import Mathlib
import Kudos.Analysis
import Kudos.Proofs.Document.Lines
import Kudos.Proofs.Statement.ScriptRequire

/-!
# Recognizing written scripts

A document made up of lines with one statement each is recognized as written: one statement for each
line, in order, with its module and its names (`recognize_written`). The induction is on the lines
behind a place. Each of the two patterns matches the lines of its own form and passes over the others,
and the two lists of matches, put in the order of their offsets, are the lines again.
-/

namespace Kudos.Script

open Text Pattern

variable {pre rest t x y : Text} {c : Char} {ls : List Line} {l : Line} {n : Nat}

/-! ## Line ends -/

/-- A line break is white space with one newline, at its end. -/
theorem exists_break_eq (l : Line) : ∃ x, l.break = x ++ ['\n'] ∧ '\n' ∉ x ∧ ∀ e ∈ x, isBlank e := by
  unfold Line.break
  split
  · exact ⟨['\r'], rfl, by simp, by simpa using (by decide : isBlank '\r')⟩
  · exact ⟨[], rfl, by simp, by simp⟩

theorem isBlank_of_mem_break (l : Line) : ∀ e ∈ l.break, isBlank e := by
  obtain ⟨x, hx, -, hblank⟩ := exists_break_eq l
  intro e he
  rw [hx] at he
  rcases List.mem_append.mp he with he | he
  · exact hblank e he
  · rw [List.mem_singleton.mp he]
    decide

theorem newline_mem_break (l : Line) : '\n' ∈ l.break := by
  obtain ⟨x, hx, -, -⟩ := exists_break_eq l
  simp [hx]

theorem startsLine_text (l : Line) : StartsLine (pre ++ l.text) := by
  obtain ⟨x, hx, -, -⟩ := exists_break_eq l
  have ends : pre ++ l.text = pre ++ l.form.text ++ x ++ ['\n'] := by simp [Line.text, hx]
  rw [ends]
  exact .inr (by simp)

theorem exists_require_text_eq (r : RequireLine) :
    ∃ c x, r.text = c :: x ∧ (c = 'c' ∨ c = 'l') := by
  have keyword : r.keyword = "let".toList ∨ r.keyword = "const".toList := by
    unfold RequireLine.keyword
    split
    · exact .inl rfl
    · exact .inr rfl
  rcases keyword with h | h
  · exact ⟨'l', r.text.tail, by simp [RequireLine.text, h], .inr rfl⟩
  · exact ⟨'c', r.text.tail, by simp [RequireLine.text, h], .inl rfl⟩

/-- Every statement starts with one of three letters. -/
theorem exists_form_text_eq (f : Form) :
    ∃ c x, f.text = c :: x ∧ (c = 'i' ∨ c = 'c' ∨ c = 'l') := by
  cases f with
  | imports l => exact ⟨'i', l.text.tail, rfl, .inl rfl⟩
  | requires l =>
    obtain ⟨c, x, hx, hc⟩ := exists_require_text_eq l
    exact ⟨c, x, hx, .inr hc⟩

theorem written_head (ls : List Line) : ∀ e ∈ (written ls).head?, e = 'i' ∨ e = 'c' ∨ e = 'l' := by
  cases ls with
  | nil => simp [written]
  | cons l ls =>
    obtain ⟨c, x, hx, hc⟩ := exists_form_text_eq l.form
    simpa [written, Line.text, hx] using hc

theorem written_head_visible (ls : List Line) : ∀ e ∈ (written ls).head?, ¬ isBlank e := by
  intro e he
  rcases written_head ls e he with rfl | rfl | rfl <;> decide

theorem written_not_from (ls : List Line) : ¬ "from".toList <+: written ls := by
  rintro ⟨t, ht⟩
  have := written_head ls 'f' (by simp [← ht])
  simp at this

/-! ## Newlines in lines -/

theorem newline_not_mem_space (s : Space) : '\n' ∉ s.text :=
  fun hmem => ne_newline_of_isIndent (s.all _ hmem) rfl

theorem newline_not_mem_name (name : Run1 isWord) : '\n' ∉ name.text :=
  word_not_mem name (by decide)

theorem newline_not_mem_specifier (s : Specifier) : '\n' ∉ s.text :=
  fun hmem => specifier_visible s _ hmem (by decide)

theorem newline_not_mem_target (target : Target) : '\n' ∉ target.text := by
  cases target <;> simp [Target.text, writtenSlots, Slot.text, newline_not_mem_space,
    newline_not_mem_name]

theorem newline_not_mem_form (f : Form) : '\n' ∉ f.text := by
  cases f with
  | imports l =>
    have ending : '\n' ∉ l.ending := by
      intro hmem
      exact absurd (eq_semicolon_of_mem_ending l _ hmem) (by decide)
    rw [Form.text, ImportLine.text, l.statement_eq, List.mem_append, not_or]
    exact ⟨l.frame.newline_not_mem (isClauseChar_of_mem_clause l.clause), ending⟩
  | requires l =>
    have keyword : '\n' ∉ l.keyword := by
      unfold RequireLine.keyword
      split <;> simp
    simp [Form.text, RequireLine.text, keyword, newline_not_mem_space, newline_not_mem_target,
      newline_not_mem_specifier, (isQuote_ne_newline l.isQuote_mark).symm]

theorem count_newline_text (l : Line) : l.text.count '\n' = 1 := by
  obtain ⟨x, hx, hnl, -⟩ := exists_break_eq l
  simp [Line.text, hx, List.count_eq_zero_of_not_mem hnl,
    List.count_eq_zero_of_not_mem (newline_not_mem_form l.form)]

/-! ## Matches of `import` statements -/

/-- Inside a line no `import` statement starts. -/
theorem quiet_import (hx : '\n' ∉ x) (h : ¬ (StartsLine pre ∧ "import".toList <+: x ++ ['\n'] ++ t)) :
    importStatement.Quiet pre (x ++ ['\n']) t := by
  intro y z hyz hz hstarts
  obtain ⟨hpre, hword⟩ := exists_of_starts_import hstarts
  rcases List.eq_nil_or_concat y with rfl | ⟨y, e, rfl⟩
  · refine h ⟨by simpa using hpre, ?_⟩
    rwa [hyz, List.nil_append]
  · rw [List.concat_eq_append] at hyz hpre
    obtain rfl : e = '\n' := by
      rcases hpre with hpre | hpre
      · simp at hpre
      · simpa using hpre
    obtain ⟨z, d, rfl⟩ := List.eq_nil_or_concat z |>.resolve_left hz
    rw [List.concat_eq_append, ← List.append_assoc] at hyz
    have inside : x = y ++ ['\n'] ++ z := List.append_inj_left' hyz rfl
    exact hx (by simp [inside])

/-- Behind its statement a line holds no other one. -/
theorem quiet_import_ending (i : ImportLine) (l : Line) :
    importStatement.Quiet (pre ++ i.statement) (i.ending ++ l.break) t := by
  obtain ⟨x, hx, hnl, -⟩ := exists_break_eq l
  have hending : '\n' ∉ i.ending ++ x := by
    intro hmem
    rcases List.mem_append.mp hmem with hmem | hmem
    · exact absurd (eq_semicolon_of_mem_ending i _ hmem) (by decide)
    · exact hnl hmem
  rw [hx, ← List.append_assoc]
  refine quiet_import hending ?_
  rintro ⟨hpre, -⟩
  have ends : pre ++ i.statement = pre ++ (i.head ++ (i.gap'.text ++ "from".toList ++ i.gap''.text)) ++
      i.mark :: i.specifier.text ++ [i.mark] := by
    simp [ImportLine.statement, ImportLine.quoted]
  rw [ends] at hpre
  rcases hpre with hpre | hpre
  · simp at hpre
  · rw [List.getLast?_concat] at hpre
    exact isQuote_ne_newline i.isQuote_mark (Option.some.inj hpre)

/-- A line with a `require` statement holds no `import` statement. -/
theorem quiet_import_require (r : RequireLine) (l : Line) (h : l.form = .requires r) :
    importStatement.Quiet pre l.text t := by
  obtain ⟨x, hx, hnl, -⟩ := exists_break_eq l
  have hform : '\n' ∉ l.form.text ++ x := by simp [newline_not_mem_form, hnl]
  rw [Line.text, hx, ← List.append_assoc]
  refine quiet_import hform ?_
  rintro ⟨-, ⟨u, hu⟩⟩
  obtain ⟨c, y, hy, hc⟩ := exists_require_text_eq r
  have hform : l.form.text = c :: y := by rw [h, Form.text, hy]
  rw [hform] at hu
  obtain rfl : 'i' = c := (List.cons.inj hu).1
  simp at hc

/-! ## All matches -/

/-- The lines with the number of characters before each, the first of them behind `n` characters. -/
def places (n : Nat) : List Line → List (Nat × Line)
  | [] => []
  | l :: ls => (n, l) :: places (n + l.text.length) ls

/-- What the `import` pattern matches on a line. -/
def importMatch (place : Nat × Line) : Option Match :=
  match place.2.form with
  | .imports i => some ⟨place.1, i.statement, []⟩
  | .requires _ => none

/-- What the `require` pattern matches on a line. -/
def requireMatch (place : Nat × Line) : Option Match :=
  match place.2.form with
  | .imports _ => none
  | .requires r => some ⟨place.1, r.text, [r.list, r.specifier.text]⟩

theorem written_cons (l : Line) (ls : List Line) : written (l :: ls) = l.text ++ written ls := rfl

/-- The `import` pattern matches the lines of its form and nothing else. -/
theorem foundBehind_import_written (hpre : StartsLine pre) :
    importStatement.foundBehind pre (written ls) = (places pre.length ls).filterMap importMatch := by
  induction ls generalizing pre with
  | nil => simp [written, places]
  | cons l ls ih =>
    have behind : importStatement.foundBehind (pre ++ l.text) (written ls) =
        (places (pre ++ l.text).length ls).filterMap importMatch := ih (startsLine_text l)
    rw [List.length_append] at behind
    rw [written_cons, places]
    cases hform : l.form with
    | imports i =>
      have found : importMatch (pre.length, l) = some ⟨pre.length, i.statement, []⟩ := by
        simp [importMatch, hform]
      have split : l.text ++ written ls = i.statement ++ (i.ending ++ l.break ++ written ls) := by
        simp [Line.text, hform, Form.text, ImportLine.text]
      have first : importStatement.ReadsFirst pre i.statement (i.ending ++ (l.break ++ written ls)) [] :=
        readsFirst_import i (isBlank_of_mem_break l) (newline_mem_break l) (written_head_visible ls)
          (written_not_from ls) hpre
      rw [← List.append_assoc] at first
      have hne : i.statement ≠ [] := by simp [ImportLine.statement, ImportLine.quoted]
      have passed : pre ++ i.statement ++ (i.ending ++ l.break) = pre ++ l.text := by
        simp [Line.text, hform, Form.text, ImportLine.text]
      rw [List.filterMap_cons_some found, split,
        foundBehind_of_match hne (matchHere_of_readsFirst first),
        foundBehind_append_of_quiet (quiet_import_ending i l), passed, behind]
    | requires r =>
      have none : importMatch (pre.length, l) = none := by
        simp [importMatch, hform]
      rw [List.filterMap_cons_none none, foundBehind_append_of_quiet (quiet_import_require r l hform),
        behind]

/-- The `require` pattern matches the lines of its form and nothing else. -/
theorem foundBehind_require_written :
    requireStatement.foundBehind pre (written ls) = (places pre.length ls).filterMap requireMatch := by
  induction ls generalizing pre with
  | nil => simp [written, places]
  | cons l ls ih =>
    have behind : requireStatement.foundBehind (pre ++ l.text) (written ls) =
        (places (pre ++ l.text).length ls).filterMap requireMatch := ih
    rw [List.length_append] at behind
    rw [written_cons, places]
    cases hform : l.form with
    | imports i =>
      have none : requireMatch (pre.length, l) = none := by
        simp [requireMatch, hform]
      have split : l.text = i.text ++ l.break := by simp [Line.text, hform, Form.text]
      have quiet : requireStatement.Quiet pre l.text (written ls) := by
        rw [split]
        exact quiet_require_import i (isBlank_of_mem_break l)
      rw [List.filterMap_cons_none none, foundBehind_append_of_quiet quiet, behind]
    | requires r =>
      have found : requireMatch (pre.length, l) =
          some ⟨pre.length, r.text, [r.list, r.specifier.text]⟩ := by
        simp [requireMatch, hform]
      have split : l.text ++ written ls = r.text ++ (l.break ++ written ls) := by
        simp [Line.text, hform, Form.text]
      have hne : r.text ≠ [] := by simp [RequireLine.text]
      have quiet : requireStatement.Quiet (pre ++ r.text) l.break (written ls) := by
        refine quiet_require_of_forall fun e he => ?_
        have hblank := isBlank_of_mem_break l e he
        constructor
        · rintro rfl
          exact absurd hblank (by decide)
        · rintro rfl
          exact absurd hblank (by decide)
      have passed : pre ++ r.text ++ l.break = pre ++ l.text := by
        simp [Line.text, hform, Form.text]
      rw [List.filterMap_cons_some found, split,
        foundBehind_of_match hne (matchHere_of_readsFirst (readsFirst_require r)),
        foundBehind_append_of_quiet quiet, passed, behind]

/-! ## The statements of a written script -/

/-- The part of a line that its pattern matches. -/
def Form.matched : Form → Text
  | imports l => l.statement
  | requires l => l.text

/-- Whether the module is a library: its specifier starts neither with `./` nor with `/`. -/
def Form.isExternal (f : Form) : Bool :=
  !(f.source.startsWith ['.', '/'] || f.source.startsWith ['/'])

/-- The statement on the line at a place. -/
def statementAt (d : Document) (place : Nat × Line) : Statement where
  line := d.lineOfOffset place.1
  offset := place.1
  source := place.2.form.source
  names := place.2.form.names
  isExternal := place.2.form.isExternal
  text := place.2.form.matched

theorem isLocal_specifier (s : Specifier) :
    isLocal s.text = (s.text.startsWith ['.', '/'] || s.text.startsWith ['/']) := by
  have trimmed : trim s.text = s.text :=
    trim_eq_self (fun e he => specifier_visible s e (List.mem_of_mem_head? he))
      fun e he => specifier_visible s e (List.mem_of_getLast? he)
  rw [isLocal, trimmed]

/-- Two lists that split a third by form make up a permutation of it. -/
theorem perm_filterMap {α β : Type} {f g : α → Option β} {h : α → β}
    (hsplit : ∀ a, f a = some (h a) ∧ g a = none ∨ f a = none ∧ g a = some (h a)) (as : List α) :
    (as.filterMap f ++ as.filterMap g).Perm (as.map h) := by
  induction as with
  | nil => simp
  | cons a as ih =>
    rcases hsplit a with ⟨hf, hg⟩ | ⟨hf, hg⟩
    · rw [List.filterMap_cons_some hf, List.filterMap_cons_none hg, List.cons_append, List.map_cons]
      exact ih.cons _
    · rw [List.filterMap_cons_none hf, List.filterMap_cons_some hg, List.map_cons]
      exact List.perm_middle.trans (ih.cons _)

theorem pairwise_offset_mergeSort (found : List Statement) :
    (found.mergeSort fun a b => decide (a.offset ≤ b.offset)).Pairwise
      fun a b => a.offset ≤ b.offset := by
  have sorted : (found.mergeSort fun a b => decide (a.offset ≤ b.offset)).Pairwise
      fun a b => decide (a.offset ≤ b.offset) = true :=
    List.pairwise_mergeSort (fun a b c => by simpa using Nat.le_trans)
      (fun a b => by simpa using Nat.le_total _ _) found
  simpa using sorted

/-- Sorting puts statements at ascending places into the order of their places. -/
theorem mergeSort_eq_of_perm {found expected : List Statement} (hperm : found.Perm expected)
    (hsorted : expected.Pairwise fun a b => a.offset < b.offset) :
    (found.mergeSort fun a b => decide (a.offset ≤ b.offset)) = expected := by
  have perm := (List.mergeSort_perm found fun a b => decide (a.offset ≤ b.offset)).trans hperm
  have distinct : (expected.map (·.offset)).Nodup :=
    List.pairwise_map.mpr (hsorted.imp Nat.ne_of_lt)
  refine List.Perm.eq_of_pairwise ?_ (pairwise_offset_mergeSort found) (hsorted.imp Nat.le_of_lt) perm
  intro a b ha hb hab hba
  exact List.inj_on_of_nodup_map distinct (perm.mem_iff.mp ha) hb (Nat.le_antisymm hab hba)

theorem le_of_mem_places {place : Nat × Line} (h : place ∈ places n ls) : n ≤ place.1 := by
  induction ls generalizing n with
  | nil => simp [places] at h
  | cons l ls ih =>
    rcases List.mem_cons.mp h with rfl | h
    · rfl
    · have := ih h
      omega

theorem pairwise_places (n : Nat) (ls : List Line) : (places n ls).Pairwise fun a b => a.1 < b.1 := by
  induction ls generalizing n with
  | nil => simp [places]
  | cons l ls ih =>
    refine List.pairwise_cons.mpr ⟨fun place hplace => ?_, ih _⟩
    have hle := le_of_mem_places hplace
    have hpos : 0 < l.text.length := by
      have := count_newline_text l
      have := List.count_le_length (a := '\n') (l := l.text)
      omega
    simp only
    omega

/-- Each line is recognized by the pattern of its form and by no other. -/
theorem recognize_eq_map {d : Document} (h : d.text = written ls) :
    recognize d = (places 0 ls).map (statementAt d) := by
  have found : imports d ++ requires d =
      (places 0 ls).filterMap (fun place => (importMatch place).map fun m =>
        ⟨d.lineOfOffset m.start, m.start, (splitImport m.text).2, importNames (splitImport m.text).1,
          !isLocal (splitImport m.text).2, m.text⟩) ++
      (places 0 ls).filterMap (fun place => (requireMatch place).map fun m =>
        ⟨d.lineOfOffset m.start, m.start, m.groupText 1, requireNames (m.groupText 0),
          !isLocal (m.groupText 1), m.text⟩) := by
    rw [imports, requires, found_eq_foundBehind, found_eq_foundBehind, h,
      foundBehind_import_written (.inl rfl), foundBehind_require_written, List.map_filterMap,
      List.map_filterMap]
    rfl
  have sorted : ((places 0 ls).map (statementAt d)).Pairwise fun a b => a.offset < b.offset :=
    List.pairwise_map.mpr (pairwise_places 0 ls)
  rw [recognize, found]
  refine mergeSort_eq_of_perm (perm_filterMap (fun place => ?_) _) sorted
  cases hform : place.2.form with
  | imports l =>
    left
    simp [importMatch, requireMatch, statementAt, hform, splitImport_statement, importNames_text,
      Form.source, Form.names, Form.matched, Form.isExternal, isLocal_specifier]
  | requires l =>
    right
    simp [importMatch, requireMatch, statementAt, hform, Match.groupText, requireNames_list,
      Form.source, Form.names, Form.matched, Form.isExternal, isLocal_specifier]

/-- The places of the lines of a document are on the lines, in order. -/
theorem map_places {α : Type} {d : Document} (f : Nat → Line → α) (h : d.text = pre ++ written ls) :
    (places pre.length ls).map (fun place => f (d.lineOfOffset place.1) place.2) =
      ls.mapIdx fun i l => f (pre.count '\n' + i) l := by
  induction ls generalizing pre with
  | nil => simp [places]
  | cons l ls ih =>
    have behind : d.text = (pre ++ l.text) ++ written ls := by rw [h, written_cons, List.append_assoc]
    have later := ih behind
    rw [List.length_append, List.count_append, count_newline_text] at later
    rw [places, List.map_cons, List.mapIdx_cons, later, Document.lineOfOffset_length h]
    congr 1
    refine List.mapIdx_eq_mapIdx_iff.mpr ?_
    intro i hi
    rw [Nat.add_assoc, Nat.add_comm 1 i]

theorem bindingsOf_external (ss : List Statement) :
    Analysis.bindingsOf (ss.filter (·.isExternal)) = (ss.map fun s =>
      if s.isExternal then s.names.map fun name => ⟨name, s.source, s.line⟩ else []).flatten := by
  induction ss with
  | nil => rfl
  | cons s ss ih =>
    rw [List.map_cons, List.flatten_cons, ← ih]
    by_cases hs : s.isExternal
    · rw [List.filter_cons_of_pos hs, if_pos hs]
      rfl
    · rw [List.filter_cons_of_neg hs, if_neg hs, List.nil_append]

/-- A document of written lines is recognized as written: one statement for each line, in order, with
its module, its names and whether it is a library. The bindings are those of the library lines. -/
theorem recognize_written {d : Document}
    (hlanguage : d.language = "javascript" ∨ d.language = "typescript") (htext : d.text = written ls) :
    Grammar.ofTag? d.language = some .script ∧
      ((Grammar.script.recognize d).map fun s => (s.line, s.source, s.names, s.isExternal)) =
        (ls.mapIdx fun i l => (i, l.form.source, l.form.names, l.form.isExternal)) ∧
      (Analysis.ofDocument d).bindings = (ls.mapIdx fun i l =>
        if l.form.isExternal then l.form.names.map fun name => ⟨name, l.form.source, i⟩
        else []).flatten := by
  have grammar : Grammar.ofTag? d.language = some .script := Grammar.ofTag?_script hlanguage
  have statements : Grammar.script.recognize d = (places 0 ls).map (statementAt d) :=
    recognize_eq_map htext
  have behind : d.text = [] ++ written ls := htext
  refine ⟨grammar, ?_, ?_⟩
  · have lines := map_places (fun i l => (i, l.form.source, l.form.names, l.form.isExternal)) behind
    simp only [List.count_nil, Nat.zero_add] at lines
    rw [statements, List.map_map, ← lines]
    rfl
  · have lines := map_places (fun i (l : Line) => if l.form.isExternal then
        l.form.names.map fun name => (⟨name, l.form.source, i⟩ : Binding) else []) behind
    simp only [List.count_nil, Nat.zero_add] at lines
    rw [← lines, Analysis.ofDocument_eq grammar]
    simp only [statements, Analysis.ofStatements, bindingsOf_external, List.map_map]
    rfl

/-- Two lines: an `import` statement of a library and a `require` statement of a file. -/
def twoLines : List Line := [
  { form := .imports {
      clause := .both ⟨.of ['a'], by decide, by decide⟩ (.of [])
        (Run1.space isIndent_space).toRun (.braces {
        leading := []
        final := some {
          before := (Run1.space isIndent_space).toRun
          entry := {
            name := ⟨.of ['b'], by decide, by decide⟩
            renamed := some (.space isIndent_space, .space isIndent_space,
              ⟨.of ['k'], by decide, by decide⟩) }
          behind := (Run1.space isIndent_space).toRun }
        gap := .of [] })
      specifier := .of ['m']
      mark := '\''
      isQuote_mark := by decide
      gap := .space isIndent_space
      gap' := .space isIndent_space
      gap'' := .space isIndent_space
      semicolon := true }
    hasReturn := false },
  { form := .requires {
      isLet := true
      gap := .space isIndent_space
      target := .plain (.of ['x'])
      before := (Run1.space isIndent_space).toRun
      behind := (Run1.space isIndent_space).toRun
      specifier := .of ['.', '/', 'z']
      mark := '\''
      isQuote_mark := by decide }
    hasReturn := true }]

/-- Only the library line of the two binds names. -/
theorem bindings_twoLines :
    (Analysis.ofDocument ⟨"import a, \x7b b as k \x7d from 'm';\nlet x = require('./z');\r\n".toList,
      "typescript", none⟩).bindings = [⟨['a'], ['m'], 0⟩, ⟨['k'], ['m'], 0⟩] := by
  have htext : "import a, \x7b b as k \x7d from 'm';\nlet x = require('./z');\r\n".toList =
      written twoLines := by decide
  exact (recognize_written (d := ⟨_, "typescript", none⟩) (.inr rfl) htext).2.2.trans (by decide)

end Kudos.Script
