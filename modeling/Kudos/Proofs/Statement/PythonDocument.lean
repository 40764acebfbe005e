import Mathlib
import Kudos.Analysis
import Kudos.Proofs.Document.Lines
import Kudos.Proofs.Pattern.Found
import Kudos.Proofs.Statement.PythonLine

/-!
# Recognizing Python import statements

A line with an import statement is recognized whatever the other lines of the document are
(`recognize_line`). The name list is matched up to the last place where a name ends at a word edge,
which is the end of the last entry: longer runs of the list class end in blanks, and no alias follows
the blanks. No match reaches over a newline, so no match of an earlier line covers the start of the
line, and every other match is found on another line.
-/

namespace Kudos.Python

open Text Pattern

variable {pre rest t x y gap : Text} {c : Char} {d : Document} {i : Nat}

/-! ## The end of the name list -/

/-- What ends the list behind its last entry and blanks: a comment, the end of the line, or the dot of a
module path, since the list class holds no dot. -/
def Closes (rest : Text) : Prop :=
  ∀ e ∈ rest.head?, e = '#' ∨ e = '\r' ∨ e = '\n' ∨ e = '.'

theorem Closes.not_isListChar (h : Closes rest) : ∀ e ∈ rest.head?, ¬ isListChar e := by
  intro e he
  rcases h e he with rfl | rfl | rfl | rfl <;> decide

theorem Closes.not_isIndent (h : Closes rest) : ∀ e ∈ rest.head?, ¬ isIndent e := by
  intro e he
  rcases h e he with rfl | rfl | rfl | rfl <;> decide

theorem not_isWord_of_isIndent (h : isIndent c) : ¬ isWord c :=
  not_isWord_of_isBlank (isBlank_of_isIndent h)

/-- Behind the last entry no word goes on. -/
theorem Closes.not_isWord_head (h : Closes rest) (hgap : ∀ e ∈ gap, isIndent e) :
    (gap ++ rest).head?.any isWord = false := by
  cases gap with
  | nil =>
    cases rest with
    | nil => rfl
    | cons c rest =>
      have hword : isWord c = false := by
        rcases h c (by simp) with rfl | rfl | rfl | rfl <;> decide
      simpa using hword
  | cons c gap => simpa using not_isWord_of_isIndent (hgap c (by simp))

theorem Closes.not_starts_alias (h : Closes rest) (hgap : ∀ e ∈ gap, isIndent e) :
    ¬ lastAlias.Starts pre (gap ++ rest) := by
  intro hstarts
  obtain ⟨r, _, _, hsplit, hr, hword⟩ := starts_append.mp (starts_left (starts_left hstarts))
  obtain ⟨word, u, _, rfl, hword⟩ := hword
  obtain ⟨rfl, -⟩ := reads_word.mp hword
  obtain ⟨-, hr, -⟩ := reads_many1.mp hr
  obtain ⟨-, hrest⟩ := eq_of_run hsplit hgap hr h.not_isIndent (by simp; decide)
  have := h 'a' (by simp [hrest])
  simp at this

/-- In the blanks behind the last entry neither an alias nor a word edge follows. -/
theorem Closes.not_starts_edge (h : Closes rest) (hgap : ∀ e ∈ gap, isIndent e)
    (hpre : ∀ e ∈ pre.getLast?, isIndent e) :
    ¬ (Pattern.optional lastAlias ++ wordEdge).Starts pre (gap ++ rest) := by
  intro hstarts
  obtain ⟨run, t, _, hsplit, halias, _, _, _, rfl, hedge⟩ := starts_append.mp hstarts
  rcases reads_optional.mp halias with halias | ⟨rfl, -⟩
  · exact h.not_starts_alias hgap ⟨run, _, _, hsplit, halias⟩
  · obtain ⟨rfl, -, hedge⟩ := reads_wordEdge.mp hedge
    have before : pre.getLast?.any isWord = false := by
      cases hlast : pre.getLast? with
      | none => rfl
      | some e => simpa using not_isWord_of_isIndent (hpre e hlast)
    have behind := h.not_isWord_head hgap
    rw [hsplit] at behind
    refine hedge ?_
    rw [List.append_nil, before]
    simpa using behind.symm

/-- The list is matched up to the end of its last entry. -/
theorem readsFirst_list (hrun : ∀ e ∈ x, isListChar e) (hlast : ∃ e ∈ (pre ++ x).getLast?, isWord e)
    (hne : x ≠ []) (hgap : ∀ e ∈ gap, isIndent e) (hrest : Closes rest) :
    (many1 isListChar ++ (Pattern.optional lastAlias ++ wordEdge)).ReadsFirst pre x (gap ++ rest)
      [] := by
  have edge : EdgeBetween (pre ++ x) (gap ++ rest) := by
    obtain ⟨e, he, hword⟩ := hlast
    rw [EdgeBetween, hrest.not_isWord_head hgap, Option.mem_def.mp he]
    simpa using hword
  have absent : (Pattern.optional lastAlias).ReadsFirst (pre ++ x) [] ([] ++ (gap ++ rest)) [] :=
    .optional_nil (hrest.not_starts_alias hgap)
  have ending : (Pattern.optional lastAlias ++ wordEdge).ReadsFirst (pre ++ x) [] (gap ++ rest) [] := by
    refine absent.andThen ?_
    rw [List.append_nil]
    exact .wordEdge edge
  rw [← List.append_nil x]
  refine .many1_append hne hrun ending ?_
  -- A longer run of the list class ends in the blanks behind the entry.
  intro u v huv hu hlist
  have cut : gap ++ rest = u ++ v := huv
  obtain ⟨w, rfl, rfl⟩ : ∃ w, gap = u ++ w ∧ v = w ++ rest := by
    rcases List.append_eq_append_iff.mp cut with ⟨w, rfl, rfl⟩ | ⟨w, rfl, rfl⟩
    · cases w with
      | nil => exact ⟨[], by simp, by simp⟩
      | cons c w => exact absurd (hlist c (by simp)) (hrest.not_isListChar c (by simp))
    · exact ⟨w, rfl, rfl⟩
  refine hrest.not_starts_edge (fun e he => hgap e (by simp [he])) fun e he => ?_
  rw [List.getLast?_append_of_ne_nil _ hu] at he
  exact hgap e (List.mem_append_left _ (List.mem_of_getLast? he))

/-! ## The match of a statement -/

theorem isListChar_of_isWord (h : isWord c) : isListChar c := by
  simp [isListChar, h]

theorem isListChar_of_mem_spaces (s : Spaces) : ∀ e ∈ s.text, isListChar e := by
  intro e he
  have hspace : e = ' ' := by simpa using s.all e he
  rw [hspace]
  decide

theorem isListChar_of_mem_entry (entry : Entry) : ∀ e ∈ entry.text, isListChar e := by
  intro e he
  unfold Entry.text at he
  split at he
  case h_1 => exact isListChar_of_isWord (entry.name.all e he)
  case h_2 g g' name _ =>
    simp only [List.mem_append] at he
    rcases he with he | ((he | he) | he) | he
    · exact isListChar_of_isWord (entry.name.all e he)
    · exact isListChar_of_mem_spaces g.toRun e he
    · exact isListChar_of_isWord (isWord_of_mem_as e he)
    · exact isListChar_of_mem_spaces g'.toRun e he
    · exact isListChar_of_isWord (name.all e he)

theorem isListChar_of_mem_list (l : ImportLine) : ∀ e ∈ l.list, isListChar e := by
  intro e he
  rcases List.mem_append.mp he with he | he
  · exact isListChar_of_mem_entry l.first e he
  · obtain ⟨f, -, he⟩ := List.mem_flatMap.mp he
    simp only [Follower.text, List.mem_append, List.mem_cons] at he
    rcases he with he | rfl | he | he
    · exact isListChar_of_mem_spaces f.before e he
    · decide
    · exact isListChar_of_mem_spaces f.behind e he
    · exact isListChar_of_mem_entry f.entry e he

theorem exists_list_eq (l : ImportLine) : ∃ (x : Text) (e : Entry), l.list = x ++ e.text := by
  unfold ImportLine.list
  rcases List.eq_nil_or_concat l.others with h | ⟨fs, f, h⟩
  · exact ⟨[], l.first, by simp [h]⟩
  · exact ⟨l.first.text ++ fs.flatMap Follower.text ++ f.before.text ++ ',' :: f.behind.text, f.entry,
      by simp [h, Follower.text]⟩

theorem entry_ne_nil (e : Entry) : e.text ≠ [] := by
  unfold Entry.text
  split <;> simp [e.name.ne_nil]

theorem list_ne_nil (l : ImportLine) : l.list ≠ [] := by
  obtain ⟨x, e, h⟩ := exists_list_eq l
  simp [h, entry_ne_nil]

theorem isWord_last (l : ImportLine) : ∀ c ∈ (pre ++ l.list).getLast?, isWord c := by
  obtain ⟨x, e, h⟩ := exists_list_eq l
  rw [h, ← List.append_assoc]
  exact e.last

theorem exists_isWord_last (l : ImportLine) : ∃ c ∈ (pre ++ l.list).getLast?, isWord c := by
  have hne : pre ++ l.list ≠ [] := by simp [list_ne_nil]
  have hlast := List.getLast?_eq_some_getLast hne
  exact ⟨_, hlast, isWord_last l _ hlast⟩

/-- The clause before `import` is matched as it stands. -/
theorem readsFirst_clause (l : ImportLine) : (Pattern.optional fromClause).ReadsFirst pre l.clause
    ("import".toList ++ rest) [] := by
  unfold ImportLine.clause
  cases l.origin with
  | none =>
    refine .optional_nil fun hstarts => ?_
    obtain ⟨run, t, _, hsplit, hword⟩ := starts_left (starts_left (starts_left hstarts))
    obtain ⟨rfl, -⟩ := reads_word.mp hword
    simp at hsplit
  | some o =>
    have keyword : ∀ rest, (word "from").ReadsFirst pre "from".toList rest [] := fun _ => .literal
    have gap' : ∀ pre, (many1 isIndent).ReadsFirst pre o.gap'.text ("import".toList ++ rest) [] :=
      fun pre => .many1 o.gap'.ne_nil o.gap'.all (by simp; decide)
    exact .optional ((((keyword _).andThen (readsFirst_gap o)).andThen (readsFirst_module o)).andThen
      (gap' _))

theorem clause_head (l : ImportLine) :
    ∀ e ∈ (l.clause ++ ("import".toList ++ t)).head?, e = 'f' ∨ e = 'i' := by
  unfold ImportLine.clause
  cases l.origin with
  | none => simp
  | some o =>
    rw [Option.elim_some]
    unfold Origin.text
    simp

theorem list_head (l : ImportLine) : ∀ c ∈ (l.list ++ t).head?, isWord c := by
  unfold ImportLine.list
  rw [List.append_assoc]
  exact l.first.head

/-- A written statement is matched with its indentation up to its last entry. -/
theorem readsFirst_statement (l : ImportLine) (hpre : StartsLine pre) (hrest : Closes rest) :
    statement.ReadsFirst pre (l.indent.text ++ l.statement) (l.trailing.text ++ rest) [] := by
  have whole : l.indent.text ++ l.statement =
      ([] ++ l.indent.text ++ l.clause ++ "import".toList ++ l.gap.text) ++ l.list := by
    unfold ImportLine.statement
    simp
  have start : ∀ rest, lineStart.ReadsFirst pre [] rest [] := fun _ => .lineStart hpre
  have indent : ∀ pre rest, (many isIndent).ReadsFirst pre l.indent.text
      (l.clause ++ ("import".toList ++ rest)) [] := by
    refine fun pre rest => .many l.indent.all fun e he => ?_
    rcases clause_head l e he with rfl | rfl <;> decide
  have keyword : ∀ pre rest, (word "import").ReadsFirst pre "import".toList rest [] :=
    fun _ _ => .literal
  have gap : ∀ pre rest, (many1 isIndent).ReadsFirst pre l.gap.text (l.list ++ rest) [] := by
    refine fun pre rest => .many1 l.gap.ne_nil l.gap.all fun e he hindent => ?_
    exact not_isWord_of_isIndent hindent (list_head l e he)
  have list : ∀ pre, (many1 isListChar ++ (Pattern.optional lastAlias ++ wordEdge)).ReadsFirst pre
      l.list (l.trailing.text ++ rest) [] := fun _ =>
    readsFirst_list (isListChar_of_mem_list l) (exists_isWord_last l) (list_ne_nil l) l.trailing.all
      hrest
  have opening : (lineStart ++ many isIndent ++ Pattern.optional fromClause ++ word "import" ++
      many1 isIndent).ReadsFirst pre ([] ++ l.indent.text ++ l.clause ++ "import".toList ++ l.gap.text)
        (l.list ++ (l.trailing.text ++ rest)) [] :=
    ((((start _).andThen (indent _ _)).andThen (readsFirst_clause l)).andThen
      (keyword _ _)).andThen (gap _ _)
  rw [whole]
  unfold statement
  exact ReadsFirst.assoc.mpr (ReadsFirst.assoc.mpr (opening.andThen (list _)))

/-! ## Other matches -/

/-- What a statement is written with: spaces and tabs, module paths and name lists. -/
def isStatementChar (c : Char) : Bool :=
  isIndent c || isPathChar c || isListChar c

theorem readsOnly_isStatementChar : statement.ReadsOnly fun c => isStatementChar c := by
  have indent : ∀ c, isIndent c → isStatementChar c := fun c hc => by simp [isStatementChar, hc]
  have path : ∀ c, isPathChar c → isStatementChar c := fun c hc => by simp [isStatementChar, hc]
  have list : ∀ c, isListChar c → isStatementChar c := fun c hc => by simp [isStatementChar, hc]
  have word : ∀ c, isWord c → isStatementChar c := fun c hc => path c (isPathChar_of_isWord hc)
  have keyword : ∀ s : String, s.toList.all isWord → (Pattern.word s).ReadsOnly fun c => isStatementChar c :=
    fun s hs c hc => word c (List.all_eq_true.mp hs c hc)
  have origin : (Pattern.optional fromClause).ReadsOnly fun c => isStatementChar c :=
    readsOnly_optional ⟨⟨⟨keyword "from" (by decide), indent, indent⟩, path, path⟩, indent, indent⟩
  have renamed : (Pattern.optional lastAlias).ReadsOnly fun c => isStatementChar c :=
    readsOnly_optional ⟨⟨⟨⟨indent, indent⟩, keyword "as" (by decide)⟩, indent, indent⟩, word, word⟩
  exact ⟨⟨⟨⟨⟨⟨⟨trivial, indent⟩, origin⟩, keyword "import" (by decide)⟩, indent, indent⟩, list, list⟩,
    renamed⟩, trivial⟩

/-- A match holds no newline. -/
theorem readsOnly_statement : statement.ReadsOnly (· ≠ '\n') := by
  refine readsOnly_isStatementChar.mono ?_
  rintro c hc rfl
  exact absurd hc (by decide)

/-- A match holds no carriage return. -/
theorem readsOnly_statement_ne_return : statement.ReadsOnly (· ≠ '\r') := by
  refine readsOnly_isStatementChar.mono ?_
  rintro c hc rfl
  exact absurd hc (by decide)

theorem startsLine_of_reads {run : Text} {gs : List Text} (h : statement.Reads pre run rest gs) :
    StartsLine pre := by
  have hstarts : statement.Starts pre (run ++ rest) := ⟨run, rest, gs, rfl, h⟩
  obtain ⟨_, _, _, _, hstart, -⟩ := starts_append.mp (starts_left (starts_left (starts_left
    (starts_left (starts_left (starts_left hstarts))))))
  exact (reads_lineStart.mp hstart).2.2

theorem count_lt_of_lt {n : Nat} (hpre : StartsLine pre) (hn : n < pre.length) :
    (pre.take n).count '\n' < pre.count '\n' := by
  have hne : pre.drop n ≠ [] := by
    rw [Ne, List.drop_eq_nil_iff]
    omega
  have hline : StartsLine (pre.take n ++ pre.drop n) := by rwa [List.take_append_drop]
  have hpos : 0 < (pre.drop n).count '\n' := List.count_pos_iff.mpr (hline.newline_mem hne)
  have hcount : (pre.take n ++ pre.drop n).count '\n' = _ := List.count_append
  rw [List.take_append_drop] at hcount
  omega

/-- A match behind a line start stands on a later line. -/
theorem count_lt_of_startsLine (hne : x ≠ []) (h : StartsLine (pre ++ x)) :
    pre.count '\n' < (pre ++ x).count '\n' := by
  have hpos : 0 < x.count '\n' := List.count_pos_iff.mpr (h.newline_mem hne)
  rw [List.count_append]
  omega

/-! ## The statement of a line -/

/-- What is recognized for a match. -/
def statementOf (d : Document) (m : Match) : Statement where
  line := d.lineOfOffset m.start
  offset := m.start
  source := moduleName (trim m.text)
  names := names (trim m.text)
  isExternal := true
  text := trim m.text

theorem recognize_eq_map (d : Document) : recognize d = (statement.found d.text).map (statementOf d) :=
  rfl

/-- A line with an import statement splits the matches into those of earlier lines, its own one, and
those of later lines. -/
theorem found_of_line {before behind : Text} (l : ImportLine) (hbefore : StartsLine before)
    (hbehind : Closes behind)
    (htext : d.text = before ++ (l.indent.text ++ l.statement) ++ (l.trailing.text ++ behind)) :
    ∃ earlier later, statement.found d.text =
        earlier ++ ⟨before.length, l.indent.text ++ l.statement, []⟩ :: later ∧
      (∀ m ∈ earlier, d.lineOfOffset m.start < before.count '\n') ∧
      ∀ m ∈ later, before.count '\n' < d.lineOfOffset m.start := by
  have hne : l.indent.text ++ l.statement ≠ [] := by
    simp [ImportLine.statement]
  have split : d.text = before ++ ((l.indent.text ++ l.statement) ++ (l.trailing.text ++ behind)) := by
    rw [htext, List.append_assoc]
  have exposed : ¬ Covered (statement.foundBehind [] (before ++ ((l.indent.text ++ l.statement) ++
      (l.trailing.text ++ behind)))) ([] ++ before).length :=
    not_covered_of_startsLine readsOnly_statement hbefore
  obtain ⟨earlier, hfound, hearlier⟩ := foundBehind_append_of_exposed exposed
  rw [List.nil_append, foundBehind_of_match hne
    (matchHere_of_readsFirst (readsFirst_statement l hbefore hbehind)), ← split] at hfound
  refine ⟨earlier, _, hfound, fun m hm => ?_, fun m hm => ?_⟩
  · obtain ⟨-, hlt, hstop⟩ := hearlier m hm
    rw [List.nil_append] at hstop
    have hlength : m.start < before.length := by omega
    have hsplit : d.text = before.take m.start ++ (before.drop m.start ++
        ((l.indent.text ++ l.statement) ++ (l.trailing.text ++ behind))) := by
      rw [split, ← List.append_assoc (before.take m.start), List.take_append_drop]
    have hline := Document.lineOfOffset_length hsplit
    rw [List.length_take, Nat.min_eq_left (Nat.le_of_lt hlength)] at hline
    rw [hline]
    exact count_lt_of_lt hbefore hlength
  · obtain ⟨x, y, hxy, -, hstart, hhere⟩ := exists_of_mem_foundBehind hm
    obtain ⟨rest, -, hreads, -⟩ := reads_of_matchHere hhere
    have hline : StartsLine (before ++ (l.indent.text ++ l.statement) ++ x) :=
      startsLine_of_reads hreads
    have hsplit : d.text = (before ++ (l.indent.text ++ l.statement) ++ x) ++ y := by
      rw [htext, hxy]
      simp
    rw [hstart, Document.lineOfOffset_length hsplit, List.append_assoc]
    rw [List.append_assoc] at hline
    exact count_lt_of_startsLine (fun h => hne (List.append_eq_nil_iff.mp h).1) hline

/-- The bindings of a line are those of its statements. -/
theorem filter_bindingsOf (ss : List Statement) :
    (Analysis.bindingsOf ss).filter (fun b => b.line = i) =
      Analysis.bindingsOf (ss.filter fun s => s.line = i) := by
  induction ss with
  | nil => rfl
  | cons s ss ih =>
    have here : ∀ names : List Text, (names.map fun name => (⟨name, s.source, s.line⟩ : Binding)).filter
        (fun b => b.line = i) =
          if s.line = i then names.map fun name => ⟨name, s.source, s.line⟩ else [] := by
      intro names
      by_cases h : s.line = i <;> simp [h]
    have cons : ∀ (s : Statement) ss, Analysis.bindingsOf (s :: ss) =
        (s.names.map fun name => ⟨name, s.source, s.line⟩) ++ Analysis.bindingsOf ss := fun _ _ => rfl
    rw [cons, List.filter_append, here, ih]
    by_cases h : s.line = i
    · rw [if_pos h, List.filter_cons_of_pos (by simpa using h), cons]
    · rw [if_neg h, List.filter_cons_of_neg (by simpa using h), List.nil_append]

theorem trim_match (l : ImportLine) : trim (l.indent.text ++ l.statement) = l.statement := by
  have split : l.statement = l.clause ++ ("import".toList ++ (l.gap.text ++ l.list)) := by
    unfold ImportLine.statement
    simp
  rw [trim_blank_append l.indent.isBlank_of_isIndent]
  refine trim_eq_self (fun e he => ?_) fun e he => not_isBlank_of_isWord (isWord_last l e he)
  rw [split] at he
  rcases clause_head l e he with rfl | rfl <;> decide

/-- What ends the list can also be the end of the line. -/
theorem Closes.append {ending behind : Text} (h : Closes x) (hending : ending = [] ∨ ending = ['\r'])
    (hbehind : ∀ e ∈ behind.head?, e = '\n') : Closes (x ++ (ending ++ behind)) := by
  intro e he
  cases x with
  | cons c x =>
    obtain rfl : c = e := by simpa using he
    exact h c (by simp)
  | nil =>
    rw [List.nil_append] at he
    rcases hending with rfl | rfl
    · exact .inr (.inr (.inl (hbehind e he)))
    · exact .inr (.inl (by simpa using he.symm))

theorem closes_remark (l : ImportLine) {ending behind : Text} (hending : ending = [] ∨ ending = ['\r'])
    (hbehind : ∀ e ∈ behind.head?, e = '\n') : Closes (l.remark ++ (ending ++ behind)) :=
  Closes.append (fun e he => (l.remark_head e he).imp_right .inl) hending hbehind

/-- The statement of a line is the only one of the line. -/
theorem recognize_of_line {before behind : Text} (l : ImportLine) (hbefore : StartsLine before)
    (hbehind : Closes behind)
    (htext : d.text = before ++ (l.indent.text ++ l.statement) ++ (l.trailing.text ++ behind)) :
    (recognize d).filter (fun s => s.line = before.count '\n') =
      [⟨before.count '\n', before.length, l.source, l.names, true, l.statement⟩] := by
  obtain ⟨earlier, later, hfound, hearlier, hlater⟩ := found_of_line l hbefore hbehind htext
  have here : d.text = before ++ ((l.indent.text ++ l.statement) ++ (l.trailing.text ++ behind)) := by
    rw [htext, List.append_assoc]
  have own : statementOf d ⟨before.length, l.indent.text ++ l.statement, []⟩ =
      ⟨before.count '\n', before.length, l.source, l.names, true, l.statement⟩ := by
    simp only [statementOf, trim_match, moduleName_statement, names_statement,
      Document.lineOfOffset_length here]
  have none : ∀ ms : List Match, (∀ m ∈ ms, d.lineOfOffset m.start ≠ before.count '\n') →
      (ms.map (statementOf d)).filter (fun s => s.line = before.count '\n') = [] := by
    intro ms hms
    rw [List.filter_eq_nil_iff]
    intro s hs
    obtain ⟨m, hm, rfl⟩ := List.mem_map.mp hs
    have elsewhere : (statementOf d m).line ≠ before.count '\n' := hms m hm
    simpa using elsewhere
  rw [recognize_eq_map, hfound, List.map_append, List.map_cons, List.filter_append,
    none earlier fun m hm => Nat.ne_of_lt (hearlier m hm), List.nil_append, own,
    List.filter_cons_of_pos (by simp), none later fun m hm => Nat.ne_of_gt (hlater m hm)]

theorem isExternal_of_mem_recognize {s : Statement} (h : s ∈ recognize d) : s.isExternal := by
  obtain ⟨m, -, rfl⟩ := List.mem_map.mp h
  rfl

theorem filter_isExternal_recognize (d : Document) : (recognize d).filter (·.isExternal) = recognize d :=
  List.filter_eq_self.mpr fun _ => isExternal_of_mem_recognize

theorem ofDocument_eq_of_python (hlanguage : d.language = "python") :
    Analysis.ofDocument d = Analysis.ofStatements d (recognize d) := by
  have grammar : Grammar.ofTag? d.language = some .python := by
    rw [hlanguage]
    decide
  exact Analysis.ofDocument_eq grammar

/-- What the analysis holds of a line with one statement. -/
theorem ofDocument_of_only {s : Statement} (hlanguage : d.language = "python")
    (only : (recognize d).filter (fun s => s.line = i) = [s]) :
    (Analysis.ofDocument d).bindings.filter (fun b => b.line = i) =
        (s.names.map fun name => ⟨name, s.source, i⟩) ∧
      i ∈ (Analysis.ofDocument d).statementLines := by
  have mem : s ∈ (recognize d).filter (fun s => s.line = i) := only ▸ List.mem_singleton_self s
  obtain ⟨hs, hline⟩ := List.mem_filter.mp mem
  have hline : s.line = i := by simpa using hline
  rw [ofDocument_eq_of_python hlanguage]
  refine ⟨?_, Analysis.mem_statementLines.mpr ⟨s, hs, isExternal_of_mem_recognize hs, hline⟩⟩
  rw [Analysis.ofStatements]
  simp only [filter_isExternal_recognize]
  rw [filter_bindingsOf, only]
  simp [Analysis.bindingsOf, hline]

/-- A line with an import statement, among whatever other lines, has exactly one statement: the
bindings of the line are the local names of its entries, in order, with the module. -/
theorem recognize_line (l : ImportLine) (hlanguage : d.language = "python")
    (hline : d.lines[i]? = some l.text) :
    (∃ s, (Grammar.python.recognize d).filter (fun s => s.line = i) = [s] ∧ s.source = l.source ∧
        s.names = l.names) ∧
      (Analysis.ofDocument d).bindings.filter (fun b => b.line = i) =
        (l.names.map fun name => ⟨name, l.source, i⟩) ∧
      i ∈ (Analysis.ofDocument d).statementLines := by
  obtain ⟨before, ending, behind, htext, rfl, hbefore, -, hending, hbehind⟩ :=
    Document.exists_of_getElem?_lines hline
  have closes : Closes (l.remark ++ (ending ++ behind)) := closes_remark l hending hbehind
  have split : d.text = before ++ (l.indent.text ++ l.statement) ++
      (l.trailing.text ++ (l.remark ++ (ending ++ behind))) := by
    rw [htext]
    unfold ImportLine.text
    simp
  have only := recognize_of_line l hbefore closes split
  exact ⟨⟨_, only, rfl, rfl⟩, ofDocument_of_only hlanguage only⟩

/-- `from a.b import c as d , e # f`, indented. -/
def indentedLine : ImportLine where
  indent := .of ['\t']
  origin := some ⟨.space isIndent_space, .of ['a', '.', 'b'], .space isIndent_space⟩
  gap := .space isIndent_space
  first := ⟨⟨.of ['c'], by decide, by decide⟩,
    some (.space (by decide), .space (by decide), ⟨.of ['d'], by decide, by decide⟩)⟩
  others := [⟨Run.of [' '], Run.of [' '], ⟨⟨.of ['e'], by decide, by decide⟩, none⟩⟩]
  trailing := (Run1.space isIndent_space).toRun
  remark := ['#', ' ', 'f']
  remark_head := by simp

/-- Behind another line it binds its names on its own line. -/
theorem bindings_indentedLine :
    ((Analysis.ofDocument ⟨"import x\n\tfrom a.b import c as d , e # f\r\n".toList, "python",
      none⟩).bindings.filter fun b => b.line = 1) =
        [⟨['d'], ['a', '.', 'b'], 1⟩, ⟨['e'], ['a', '.', 'b'], 1⟩] := by
  have hline : (Document.mk "import x\n\tfrom a.b import c as d , e # f\r\n".toList "python"
      none).lines[1]? = some indentedLine.text := by decide +kernel
  exact (recognize_line indentedLine rfl hline).2.1

end Kudos.Python
