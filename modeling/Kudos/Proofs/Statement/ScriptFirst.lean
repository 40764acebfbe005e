import Mathlib
import Kudos.Proofs.Analysis.WellFormed
import Kudos.Proofs.Statement.ScriptHidden

/-!
# The first script statement

An `import` statement at the start of a text is read up to the mark that closes its specifier, whatever
stands behind the mark (`first_of_import`). The match of the pattern may go on from there, to the last
quotation mark of the line or even of the next one, but two quotation marks belong to it, so it covers
the statement (`exists_append_of_matchHere`), and splitting it looks at the statement alone
(`splitImport_append`).
-/

namespace Kudos.Script

open Text Pattern

variable {pre rest x y z behind clause : Text} {c mark : Char} {n : Nat} {m : Match}
  {s : Statement} {ss : List Statement} {d : Document}

/-! ## What a match covers -/

/-- The pattern can be read where such a statement stands. -/
theorem Frame.starts (f : Frame) (hclause : ∀ e ∈ clause, isClauseChar e) (hpre : StartsLine pre)
    (behind : Text) : importStatement.Starts pre (f.statement clause ++ behind) := by
  have blanks : ∀ pre rest gap, gap ≠ [] → (∀ e ∈ gap, isBlank e) →
      (many1 isBlank).Reads pre gap rest [] := fun _ _ _ hne hgap => reads_many1.mpr ⟨hne, hgap, rfl⟩
  have inline : ∀ e ∈ clause, isInline e := fun e he => isInline_of_isClauseChar (hclause e he)
  have split : f.statement clause ++ behind = "import".toList ++ (f.gap.text ++ (clause ++
      (f.gap'.text ++ "from".toList ++ f.gap''.text ++ ([f.mark] ++ (f.specifier.text ++ [f.mark]))))) ++
        behind := by
    unfold Frame.statement Frame.opening Frame.quoted
    simp
  refine starts_import.mpr ⟨hpre, _, behind,
    [] ++ ([] ++ ([] ++ (([] ++ [] ++ []) ++ ([] ++ ([] ++ []))))), split, ?_⟩
  refine .andThen (reads_word.mpr ⟨rfl, rfl⟩) ?_
  refine .andThen (blanks _ _ _ f.gap.ne_nil f.gap.isBlank_of_isIndent) ?_
  refine .andThen (.many inline) (.andThen ?_ ?_)
  · refine .andThen (.andThen ?_ (reads_word.mpr ⟨rfl, rfl⟩)) ?_
    · exact blanks _ _ _ f.gap'.ne_nil f.gap'.isBlank_of_isIndent
    · exact blanks _ _ _ f.gap''.ne_nil f.gap''.isBlank_of_isIndent
  · refine .andThen (.one f.isQuote_mark) (.andThen ?_ (.one f.isQuote_mark))
    exact .many (isInline_of_mem_specifier f.specifier)

/-- A match holds two quotation marks. -/
theorem exists_of_reads_import {run : Text} {gs : List Text} (h : importStatement.Reads pre run rest gs) :
    ∃ x mark y mark' z, run = x ++ mark :: (y ++ mark' :: z) ∧ (∀ e ∈ x, ¬ isQuote e) ∧
      isQuote mark ∧ (∀ e ∈ y, ¬ isQuote e) ∧ isQuote mark' := by
  obtain ⟨_, _, _, _, rfl, -, h, hlast⟩ := reads_append.mp h
  obtain ⟨_, inner, _, _, rfl, -, h, -⟩ := reads_append.mp h
  obtain ⟨opening, _, _, _, rfl, -, -, hfirst⟩ := reads_append.mp h
  obtain ⟨q, hq, rfl, -⟩ := reads_one.mp hfirst
  obtain ⟨q', hq', rfl, -⟩ := reads_one.mp hlast
  obtain ⟨x, mark, v, hsplit, hx, hmark⟩ := exists_first (p := isQuote) (t := opening ++ [q])
    ⟨q, by simp, hq⟩
  obtain ⟨y, mark', z, hbehind, hy, hmark'⟩ := exists_first (p := isQuote) (t := v ++ inner ++ [q'])
    ⟨q', by simp, hq'⟩
  refine ⟨x, mark, y, mark', z, ?_, hx, hmark, hy, hmark'⟩
  rw [hsplit, ← hbehind]
  simp

/-- A match at the place of a statement covers it. -/
theorem Frame.exists_append_of_matchHere (f : Frame) (hclause : ∀ e ∈ clause, isClauseChar e)
    (h : importStatement.matchHere pre.getLast? (f.statement clause ++ behind) n = some m) :
    ∃ z, m.text = f.statement clause ++ z ∧ z <+: behind := by
  obtain ⟨rest, hsplit, hreads, -⟩ := reads_of_matchHere h
  obtain ⟨x, q, y, q', z, htext, hx, hq, hy, hq'⟩ := exists_of_reads_import hreads
  -- The two marks of the statement are the first two of the text.
  have cut : f.opening clause ++ f.mark :: (f.specifier.text ++ f.mark :: behind) =
      x ++ q :: (y ++ q' :: (z ++ rest)) := by
    have left : f.statement clause ++ behind =
        f.opening clause ++ f.mark :: (f.specifier.text ++ f.mark :: behind) := by
      simp [statement, quoted]
    have right : m.text ++ rest = x ++ q :: (y ++ q' :: (z ++ rest)) := by simp [htext]
    rw [← left, hsplit, right]
  obtain ⟨rfl, rfl, htail⟩ := eq_of_first (p := isQuote) cut
    (fun e he => (not_mark_of_isClauseChar (f.isClauseChar_opening hclause e he)).1) hx f.isQuote_mark hq
  obtain ⟨rfl, rfl, hbehind⟩ := eq_of_first (p := isQuote) htail (specifier_unquoted f.specifier) hy
    f.isQuote_mark hq'
  exact ⟨z, by simp [htext, statement, quoted], rest, hbehind.symm⟩

/-! ## The only statement -/

/-- Where neither a quotation mark nor a newline stands behind it, a statement is the only match. -/
theorem Frame.exists_found_eq (f : Frame) (hclause : ∀ e ∈ clause, isClauseChar e)
    (hy : ∀ e ∈ y, ¬ isQuote e ∧ e ≠ '\n') :
    ∃ gs, importStatement.found (f.statement clause ++ y) = [⟨0, f.statement clause, gs⟩] := by
  obtain ⟨⟨start, text, gs⟩, hm⟩ := (f.starts hclause (.inl rfl) y).exists_matchHere 0
  obtain ⟨z, htext, hz⟩ := f.exists_append_of_matchHere hclause hm
  obtain ⟨-, -, -, hstart⟩ := reads_of_matchHere hm
  obtain ⟨x, mark, -, hmark, hlast, -⟩ := exists_of_matchHere_import hm
  simp only at htext hstart hlast
  -- A match ends with a quotation mark, so it does not go on behind the statement.
  have hnil : z = [] := by
    rcases List.eq_nil_or_concat z with rfl | ⟨z, c, rfl⟩
    · rfl
    · rw [List.concat_eq_append] at htext hz
      have ends : f.statement clause ++ z ++ [c] = x ++ [mark] := by
        rw [← hlast, htext, List.append_assoc]
      obtain rfl : c = mark := by simpa using List.append_inj_right' ends rfl
      exact absurd hmark (hy c (hz.subset (by simp))).1
  rw [hnil, List.append_nil] at htext
  subst hstart htext
  have quiet : importStatement.Quiet (f.statement clause) y [] := by
    intro u v huv hv hstarts
    rcases (exists_of_starts_import hstarts).1 with hpre | hpre
    · simp [statement, quoted] at hpre
    · have hnl : '\n' ∈ f.statement clause ++ u := List.mem_of_getLast? hpre
      rcases List.mem_append.mp hnl with hnl | hnl
      · exact f.newline_not_mem hclause hnl
      · exact (hy _ (by simp [huv, hnl])).2 rfl
  have first : importStatement.foundBehind [] (f.statement clause ++ y) = ⟨0, f.statement clause, gs⟩ ::
      importStatement.foundBehind (f.statement clause) y :=
    foundBehind_of_match (by simp [statement, quoted]) hm
  exact ⟨gs, by rw [found_eq_foundBehind, first, foundBehind_of_quiet quiet]⟩

/-- A document of one statement, with or without semicolons, is recognized as that statement. -/
theorem Frame.exists_recognize_eq (f : Frame) (hclause : ∀ e ∈ clause, isClauseChar e)
    (hy : ∀ e ∈ y, e = ';') (htext : d.text = f.statement clause ++ y) :
    ∃ s, recognize d = [s] ∧ s.offset = 0 ∧ s.line = 0 ∧
      s.source = (splitImport (f.statement clause)).2 ∧
      s.names = importNames (splitImport (f.statement clause)).1 ∧
      s.isExternal = !isLocal (splitImport (f.statement clause)).2 := by
  have plain : ∀ e ∈ y, ¬ isQuote e ∧ e ≠ '\n' := by
    intro e he
    rw [hy e he]
    decide
  obtain ⟨gs, found⟩ := f.exists_found_eq hclause plain
  have quiet : requireStatement.Quiet [] (f.statement clause ++ y) [] :=
    f.quiet_require hclause fun e he => .inl (hy e he)
  have none : requireStatement.found (f.statement clause ++ y) = [] := foundBehind_of_quiet quiet
  have hline : d.lineOfOffset 0 = 0 := by
    rw [Document.lineOfOffset_eq_count]
    rfl
  generalize hsplit : splitImport (f.statement clause) = split
  have only : recognize d = [⟨0, 0, split.2, importNames split.1, !isLocal split.2,
      f.statement clause⟩] := by
    simp [recognize, imports, requires, htext, found, none, hline, hsplit]
  exact ⟨_, only, rfl, rfl, rfl, rfl, rfl⟩

/-! ## The first statement -/

/-- Of statements one behind the other the one at the start of the text comes first. -/
theorem exists_cons_of_offset_eq_zero (hss : ss.Pairwise fun s s' => s.offset < s'.offset)
    (hs : s ∈ ss) (hoffset : s.offset = 0) : ∃ ss', ss = s :: ss' := by
  cases ss with
  | nil => simp at hs
  | cons s' ss =>
    rcases List.mem_cons.mp hs with rfl | hs
    · exact ⟨ss, rfl⟩
    · have := List.rel_of_pairwise_cons hss hs
      omega

/-- A text that starts with an `import` statement starts with a match. -/
theorem Frame.exists_mem_found (f : Frame) (hclause : ∀ e ∈ clause, isClauseChar e) (behind : Text) :
    ∃ m ∈ importStatement.found (f.statement clause ++ behind), m.start = 0 ∧
      ∃ z, m.text = f.statement clause ++ z ∧ z <+: behind := by
  obtain ⟨m, hm⟩ := (f.starts hclause (.inl rfl) behind).exists_matchHere 0
  obtain ⟨z, htext, hz⟩ := f.exists_append_of_matchHere hclause hm
  obtain ⟨-, -, -, hstart⟩ := reads_of_matchHere hm
  have hne : m.text ≠ [] := by simp [htext, statement, quoted]
  refine ⟨m, ?_, hstart, z, htext, hz⟩
  exact mem_found_of_exposed (x := []) (by rintro ⟨_, -, hlt, -⟩; simp at hlt) hne hm

/-- The first statement of a text that starts with an `import` statement is that statement, with its
module and its names, whatever stands behind its closing mark, on the line or further down. -/
theorem first_of_import (l : ImportLine) (behind : Text)
    (hlanguage : d.language = "javascript" ∨ d.language = "typescript")
    (htext : d.text = l.statement ++ behind) :
    Grammar.ofTag? d.language = some .script ∧ ∃ s ss, Grammar.script.recognize d = s :: ss ∧
      s.offset = 0 ∧ s.line = 0 ∧ s.source = l.specifier.text ∧ s.names = l.clause.names ∧
      (s.isExternal = false ↔
        l.specifier.text.startsWith ['.', '/'] ∨ l.specifier.text.startsWith ['/']) := by
  obtain ⟨m, hm, hstart, z, hmatch, -⟩ :=
    l.frame.exists_mem_found (isClauseChar_of_mem_clause l.clause) behind
  rw [← l.statement_eq, ← htext] at hm
  rw [← l.statement_eq] at hmatch
  have split : splitImport m.text = (l.clause.text, l.specifier.text) := by
    rw [hmatch, splitImport_append]
  have found : (⟨d.lineOfOffset m.start, m.start, (splitImport m.text).2,
      importNames (splitImport m.text).1, !isLocal (splitImport m.text).2, m.text⟩ : Statement) ∈
        recognize d :=
    recognize_subset (List.mem_append_left _ (List.mem_map_of_mem hm))
  obtain ⟨ss, hss⟩ := exists_cons_of_offset_eq_zero (pairwise_offset_recognize d) found hstart
  refine ⟨Grammar.ofTag?_script hlanguage, _, ss, hss, hstart, ?_, ?_, ?_, ?_⟩
  · show d.lineOfOffset m.start = 0
    rw [hstart, Document.lineOfOffset_eq_count]
    rfl
  · show (splitImport m.text).2 = l.specifier.text
    rw [split]
  · show importNames (splitImport m.text).1 = l.clause.names
    rw [split, importNames_text]
  · show (!isLocal (splitImport m.text).2) = false ↔ _
    rw [split, isLocal_specifier, Bool.not_eq_false', Bool.or_eq_true]

/-- A default name, a comma and a renamed entry. -/
def defaultAndRenamed : ImportLine where
  clause := .both ⟨.single 'a', by decide, by decide⟩ (.of [] List.all_nil) (Run1.space isIndent_space).toRun
    (.braces {
      leading := []
      final := some {
        before := (Run1.space isIndent_space).toRun
        entry := {
          name := ⟨.single 'b', by decide, by decide⟩
          renamed := some (.space isIndent_space, .space isIndent_space,
            ⟨.single 'k', by decide, by decide⟩) }
        behind := (Run1.space isIndent_space).toRun }
      gap := .of [] List.all_nil })
  specifier := .of ['.', '/', 'm']
  mark := '\''
  isQuote_mark := isQuote_apostrophe
  gap := .space isIndent_space
  gap' := .space isIndent_space
  gap'' := .space isIndent_space
  semicolon := true

/-- Neither another statement behind it nor a remark that runs on to the next line is read into the
first statement. -/
theorem first_before_remark : ∃ s ss, Grammar.script.recognize
    ⟨"import a, \x7b b as k \x7d from './m'; import x from 'y' // \"\nfrom \"z\" '".toList,
      "typescript", none⟩ = s :: ss ∧
    s.offset = 0 ∧ s.line = 0 ∧ s.source = ['.', '/', 'm'] ∧ s.names = [['a'], ['k']] ∧
      s.isExternal = false := by
  have htext : "import a, \x7b b as k \x7d from './m'; import x from 'y' // \"\nfrom \"z\" '".toList =
      defaultAndRenamed.statement ++ "; import x from 'y' // \"\nfrom \"z\" '".toList := by decide
  obtain ⟨s, ss, hss, hoffset, hline, hsource, hnames, hexternal⟩ :=
    (first_of_import (d := ⟨_, "typescript", none⟩) defaultAndRenamed _ (.inr rfl) htext).2
  exact ⟨s, ss, hss, hoffset, hline, hsource, hnames, hexternal.mpr (.inl (by decide))⟩

end Kudos.Script
