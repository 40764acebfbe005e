import Mathlib
import Kudos.Proofs.Statement.ScriptNames

/-!
# Matching `import` statements

A written `import` statement is matched up to its closing quotation mark (`readsFirst_import`), and
the match is split into its clause and its specifier (`splitImport_statement`). What must be excluded
is that the search for `from` goes past the one before the specifier: behind it no other `from` stands
between white space, up to the end of the line and at the start of the next one.
-/

namespace Kudos.Script

open Text Pattern

variable {pre rest t x y clause : Text} {c : Char}

/-! ## Characters of clauses -/

/-- What clauses are written with. -/
def isClauseChar (c : Char) : Bool :=
  isNameChar c || isIndent c || c = '*' || c = ',' || c = '\x7b' || c = '\x7d'

theorem isClauseChar_of_isNameChar (h : isNameChar c) : isClauseChar c := by
  simp [isClauseChar, h]

theorem isClauseChar_of_isIndent (h : isIndent c) : isClauseChar c := by
  simp [isClauseChar, h]

theorem isClauseChar_of_mem_alias (g g' : Gap) (n : Name) :
    ∀ e ∈ g.text ++ "as".toList ++ g'.text ++ n.text, isClauseChar e := by
  intro e he
  simp only [List.mem_append] at he
  rcases he with ((he | he) | he) | he
  · exact isClauseChar_of_isIndent (g.all e he)
  · exact isClauseChar_of_isNameChar (isNameChar_of_mem_as e he)
  · exact isClauseChar_of_isIndent (g'.all e he)
  · exact isClauseChar_of_isNameChar (n.all e he)

theorem isClauseChar_of_mem_entry (entry : Entry) : ∀ e ∈ entry.text, isClauseChar e := by
  intro e he
  unfold Entry.text at he
  split at he
  case h_1 => exact isClauseChar_of_isNameChar (entry.name.all e he)
  case h_2 g g' name _ =>
    rcases List.mem_append.mp he with he | he
    · exact isClauseChar_of_isNameChar (entry.name.all e he)
    · exact isClauseChar_of_mem_alias g g' name e he

theorem isClauseChar_of_mem_item (i : Item) : ∀ e ∈ i.text, isClauseChar e := by
  intro e he
  simp only [Item.text, List.mem_append] at he
  rcases he with (he | he) | he
  · exact isClauseChar_of_isIndent (i.before.all e he)
  · exact isClauseChar_of_mem_entry i.entry e he
  · exact isClauseChar_of_isIndent (i.behind.all e he)

theorem isClauseChar_of_mem_braces (b : Braces) : ∀ e ∈ b.text, isClauseChar e := by
  intro e he
  simp only [Braces.text, Braces.ending, writtenItems, List.mem_cons, List.mem_append,
    List.mem_flatMap, List.not_mem_nil, or_false] at he
  rcases he with rfl | ⟨i, -, he | rfl⟩ | (he | he) | rfl
  · decide
  · exact isClauseChar_of_mem_item i e he
  · decide
  · cases hfinal : b.final with
    | none => simp [hfinal] at he
    | some i => exact isClauseChar_of_mem_item i e (by simpa [hfinal] using he)
  · exact isClauseChar_of_isIndent (b.gap.all e he)
  · decide

theorem isClauseChar_of_mem_selection (s : Selection) : ∀ e ∈ s.text, isClauseChar e := by
  intro e he
  cases s with
  | star g g' n =>
    rcases List.mem_append.mp he with he | he
    · obtain rfl := List.mem_singleton.mp he
      decide
    · exact isClauseChar_of_mem_alias g g' n e he
  | braces b => exact isClauseChar_of_mem_braces b e he

theorem isClauseChar_of_mem_clause (clause : Clause) : ∀ e ∈ clause.text, isClauseChar e := by
  intro e he
  cases clause with
  | plain n => exact isClauseChar_of_isNameChar (n.all e he)
  | selected s => exact isClauseChar_of_mem_selection s e he
  | both n before behind s =>
    simp only [Clause.text, List.mem_append, List.mem_cons] at he
    rcases he with (he | he) | rfl | he | he
    · exact isClauseChar_of_isNameChar (n.all e he)
    · exact isClauseChar_of_isIndent (before.all e he)
    · decide
    · exact isClauseChar_of_isIndent (behind.all e he)
    · exact isClauseChar_of_mem_selection s e he

theorem isInline_of_isClauseChar (h : isClauseChar c) : isInline c := by
  have hne : c ≠ '\n' := by
    rintro rfl
    exact absurd h (by decide)
  simpa [isInline] using hne

/-! ## The keyword before the specifier -/

theorem isIndent_head_blank (g : Gap) : ∀ e ∈ (g.text ++ t).head?, isBlank e :=
  fun e he => Text.isBlank_of_isIndent (g.head e he)

theorem isQuote_not_isBlank (h : isQuote c) : ¬ isBlank c := by
  rcases Bool.or_eq_true _ _ |>.mp h with h | h
  · obtain rfl : c = '\'' := by simpa using h
    decide
  · obtain rfl : c = '"' := by simpa using h
    decide

theorem isQuote_ne_newline (h : isQuote c) : c ≠ '\n' :=
  ne_newline_of_not_isBlank (isQuote_not_isBlank h)

theorem isInline_of_isQuote (h : isQuote c) : isInline c := by
  simpa [isInline] using isQuote_ne_newline h

theorem specifier_visible (s : Specifier) : ∀ e ∈ s.text, ¬ isBlank e := by
  intro e he
  have := s.all e he
  simp only [Bool.and_eq_true, Bool.not_eq_true'] at this
  simp [this.1]

theorem specifier_unquoted (s : Specifier) : ∀ e ∈ s.text, ¬ isQuote e := by
  intro e he
  have := s.all e he
  simp only [Bool.and_eq_true, Bool.not_eq_true'] at this
  simp [this.2]

theorem isInline_of_mem_specifier (s : Specifier) : ∀ e ∈ s.text, isInline e := by
  intro e he
  simpa [isInline] using ne_newline_of_not_isBlank (specifier_visible s e he)

/-- No `from` stands alone in a name, or behind or before it. -/
theorem apart_from_name (n : Name) (hstop : ∀ e ∈ x.head?, ¬ isNameChar e)
    (hx : Apart isNameChar "from".toList x) : Apart isNameChar "from".toList (n.text ++ x) :=
  .name_append (by simp) isNameChar_of_mem_from n.all n.ne_from hstop hx

theorem apart_from_skip (hx : ∀ e ∈ x, ¬ isNameChar e) (hy : Apart isNameChar "from".toList y) :
    Apart isNameChar "from".toList (x ++ y) :=
  .skip_append (by simp) isNameChar_of_mem_from hx hy

theorem apart_from_nil : Apart isNameChar "from".toList [] :=
  .nil (by simp)

theorem Space.not_isNameChar (s : Space) : ∀ e ∈ s.text, ¬ isNameChar e :=
  fun e he => not_isNameChar_of_isBlank (s.isBlank_of_isIndent e he)

theorem Gap.head_not_isNameChar (g : Gap) : ∀ e ∈ (g.text ++ t).head?, ¬ isNameChar e :=
  fun e he => not_isNameChar_of_isBlank (isIndent_head_blank g e he)

theorem apart_from_alias (g g' : Gap) (n : Name) (hstop : ∀ e ∈ x.head?, ¬ isNameChar e)
    (hx : Apart isNameChar "from".toList x) :
    Apart isNameChar "from".toList (g.text ++ "as".toList ++ g'.text ++ n.text ++ x) := by
  have split : g.text ++ "as".toList ++ g'.text ++ n.text ++ x =
      g.text ++ ("as".toList ++ (g'.text ++ (n.text ++ x))) := by simp
  rw [split]
  refine apart_from_skip (Space.not_isNameChar g.toRun) ?_
  refine .name_append (by simp) isNameChar_of_mem_from isNameChar_of_mem_as (by decide)
    g'.head_not_isNameChar ?_
  exact apart_from_skip (Space.not_isNameChar g'.toRun) (apart_from_name n hstop hx)

theorem Entry.apart_from (e : Entry) (hstop : ∀ e ∈ x.head?, ¬ isNameChar e)
    (hx : Apart isNameChar "from".toList x) : Apart isNameChar "from".toList (e.text ++ x) := by
  unfold Entry.text
  split
  case h_1 => exact apart_from_name e.name hstop hx
  case h_2 g g' name _ =>
    rw [List.append_assoc]
    refine apart_from_name e.name ?_ (apart_from_alias g g' name hstop hx)
    rw [List.append_assoc, List.append_assoc, List.append_assoc]
    exact g.head_not_isNameChar

theorem Item.apart_from (i : Item) (hstop : ∀ e ∈ x.head?, ¬ isNameChar e)
    (hx : Apart isNameChar "from".toList x) : Apart isNameChar "from".toList (i.text ++ x) := by
  have split : i.text ++ x = i.before.text ++ (i.entry.text ++ (i.behind.text ++ x)) := by
    simp [Item.text]
  rw [split]
  refine apart_from_skip i.before.not_isNameChar (i.entry.apart_from ?_ ?_)
  · intro e he
    cases hb : i.behind.text with
    | nil => exact hstop e (by simpa [hb] using he)
    | cons d s =>
      obtain rfl : d = e := by simpa [hb] using he
      exact i.behind.not_isNameChar d (by simp [hb])
  · exact apart_from_skip i.behind.not_isNameChar hx

theorem Braces.apart_from (b : Braces) : Apart isNameChar "from".toList b.text := by
  have brace : ∀ e ∈ ['\x7d'], ¬ isNameChar e := by simpa using by decide
  have closing : Apart isNameChar "from".toList (b.gap.text ++ (['\x7d'] ++ [])) :=
    apart_from_skip b.gap.not_isNameChar (apart_from_skip brace apart_from_nil)
  rw [List.append_nil] at closing
  have ending : Apart isNameChar "from".toList b.ending := by
    unfold Braces.ending
    cases b.final with
    | none => simpa using closing
    | some i =>
      rw [Option.elim_some, List.append_assoc]
      refine i.apart_from ?_ closing
      intro e he
      have : e ∈ b.gap.text ++ ['\x7d'] := List.mem_of_mem_head? he
      rcases List.mem_append.mp this with he | he
      · exact b.gap.not_isNameChar e he
      · exact brace e he
  have items : ∀ is : List Item, Apart isNameChar "from".toList (writtenItems is ++ b.ending) := by
    intro is
    induction is with
    | nil => simpa [writtenItems] using ending
    | cons i is ih =>
      have split : writtenItems (i :: is) ++ b.ending =
          i.text ++ ([','] ++ (writtenItems is ++ b.ending)) := by simp [writtenItems]
      have comma : ∀ e ∈ [','], ¬ isNameChar e := by simpa using by decide
      rw [split]
      exact i.apart_from (by simpa using comma) (apart_from_skip comma ih)
  have opening : ∀ e ∈ ['\x7b'], ¬ isNameChar e := by simpa using by decide
  exact apart_from_skip opening (items b.leading)

theorem Selection.apart_from (s : Selection) : Apart isNameChar "from".toList s.text := by
  cases s with
  | star g g' n =>
    have star : ∀ e ∈ ['*'], ¬ isNameChar e := by simpa using by decide
    have := apart_from_skip star (apart_from_alias g g' n (by simp) apart_from_nil)
    simpa [Selection.text] using this
  | braces b => exact b.apart_from

theorem Clause.apart_from (c : Clause) : Apart isNameChar "from".toList c.text := by
  cases c with
  | plain n => simpa [Clause.text] using apart_from_name n (by simp) apart_from_nil
  | selected s => exact s.apart_from
  | both n before behind s =>
    have comma : ∀ e ∈ [','], ¬ isNameChar e := by simpa using by decide
    have split : (Clause.both n before behind s).text =
        n.text ++ (before.text ++ ([','] ++ (behind.text ++ s.text))) := by simp [Clause.text]
    rw [split]
    refine apart_from_name n ?_ (apart_from_skip before.not_isNameChar
      (apart_from_skip comma (apart_from_skip behind.not_isNameChar s.apart_from)))
    intro e he
    have : e ∈ before.text ++ [','] := by
      rw [← List.append_assoc] at he
      exact List.mem_of_mem_head? (by simpa using he)
    rcases List.mem_append.mp this with he | he
    · exact before.not_isNameChar e he
    · exact comma e he

theorem isNameChar_of_mem_import : ∀ e ∈ "import".toList, isNameChar e := by
  simpa using (by decide : isNameChar 'i' ∧ isNameChar 'm' ∧ isNameChar 'p' ∧ isNameChar 'o' ∧
    isNameChar 'r' ∧ isNameChar 't')

/-- In the text before the specifier's `from` no `from` stands alone. -/
theorem ImportLine.head_apart_from (l : ImportLine) : Apart isNameChar "from".toList l.head := by
  have split : l.head = "import".toList ++ (l.gap.text ++ l.clause.text) := List.append_assoc _ _ _
  rw [split]
  refine .name_append (by simp) isNameChar_of_mem_from isNameChar_of_mem_import (by decide)
    l.gap.head_not_isNameChar ?_
  exact apart_from_skip (Space.not_isNameChar l.gap.toRun) l.clause.apart_from

/-- Before its specifier a statement is written with the characters of clauses. -/
theorem Frame.isClauseChar_opening (f : Frame) (hclause : ∀ e ∈ clause, isClauseChar e) :
    ∀ e ∈ f.opening clause, isClauseChar e := by
  intro e he
  unfold Frame.opening at he
  simp only [List.mem_append] at he
  rcases he with ((he | he) | he) | (he | he) | he
  · exact isClauseChar_of_isNameChar (isNameChar_of_mem_import e he)
  · exact isClauseChar_of_isIndent (f.gap.all e he)
  · exact hclause e he
  · exact isClauseChar_of_isIndent (f.gap'.all e he)
  · exact isClauseChar_of_isNameChar (isNameChar_of_mem_from e he)
  · exact isClauseChar_of_isIndent (f.gap''.all e he)

theorem Frame.quoted_visible (f : Frame) : ∀ e ∈ f.quoted, ¬ isBlank e := by
  intro e he
  simp only [quoted, List.mem_cons, List.mem_append, List.not_mem_nil, or_false] at he
  rcases he with rfl | he | rfl
  · exact isQuote_not_isBlank f.isQuote_mark
  · exact specifier_visible f.specifier e he
  · exact isQuote_not_isBlank f.isQuote_mark

theorem Frame.newline_not_mem (f : Frame) (hclause : ∀ e ∈ clause, isClauseChar e) :
    '\n' ∉ f.statement clause := by
  intro hmem
  rcases List.mem_append.mp hmem with hmem | hmem
  · exact absurd (f.isClauseChar_opening hclause _ hmem) (by decide)
  · exact f.quoted_visible _ hmem (by decide)

/-! ## The specifier -/

/-- Marks around a text without such a mark are matched as they stand, and the text is kept. -/
theorem readsFirst_marked {mark : Char} (hinline : ∀ e ∈ x, isInline e) (hx : mark ∉ x) :
    (char mark ++ group (few isInline) ++ char mark).ReadsFirst pre ([mark] ++ (x ++ [mark])) rest
      [x] := by
  have inner : (group (few isInline) ++ char mark).ReadsFirst (pre ++ [mark]) (x ++ [mark]) rest
      [x] := by
    refine .group_few_append hinline .char ?_
    rintro y z hyz hz ⟨run, t, gs, hsplit, hreads⟩
    obtain ⟨rfl, -⟩ := reads_char.mp hreads
    obtain ⟨e, z, rfl⟩ := List.exists_cons_of_ne_nil hz
    obtain ⟨rfl, -⟩ := List.cons.inj hsplit
    exact hx (by simp [hyz])
  exact ReadsFirst.andThen .char inner

/-- What stands behind an opening mark is read up to the next mark of its kind. -/
theorem specifier_of_closed {mark : Char} (hmark : isQuote mark) (hinline : ∀ e ∈ x, isInline e)
    (hx : mark ∉ x) : specifier (mark :: (x ++ mark :: rest)) = x := by
  have first : quoted.ReadsFirst [] ([mark] ++ (x ++ [mark])) rest [x] := by
    rcases Bool.or_eq_true _ _ |>.mp hmark with h | h
    · obtain rfl : mark = '\'' := by simpa using h
      exact .left (readsFirst_marked hinline hx)
    · obtain rfl : mark = '"' := by simpa using h
      refine .right ?_ (readsFirst_marked hinline hx)
      rintro ⟨run, t, gs, hsplit, hreads⟩
      obtain ⟨_, _, _, _, rfl, -, hr, -⟩ := reads_append.mp hreads
      obtain ⟨_, _, _, _, rfl, -, hm, -⟩ := reads_append.mp hr
      obtain ⟨rfl, -⟩ := reads_char.mp hm
      simp at hsplit
  have split : mark :: (x ++ mark :: rest) = [mark] ++ (x ++ [mark]) ++ rest := by simp
  have found : quoted.matchStart (mark :: (x ++ mark :: rest)) =
      some ⟨0, [mark] ++ (x ++ [mark]), [x]⟩ := by
    rw [split]
    exact matchHere_of_readsFirst first
  rw [specifier, found]
  rfl

/-! ## The statement -/

/-- What an inline run can cover of a stretch with a newline. -/
theorem exists_of_inline (h : x ++ y = t ++ rest) (hx : ∀ e ∈ x, isInline e) (ht : '\n' ∈ t) :
    ∃ z, t = x ++ z ∧ z ≠ [] ∧ y = z ++ rest := by
  have hnl : '\n' ∉ x := by
    intro hmem
    exact absurd (hx _ hmem) (by decide)
  rcases List.append_eq_append_iff.mp h with ⟨w, rfl, hw⟩ | ⟨w, rfl, rfl⟩
  · refine ⟨w, rfl, ?_, hw⟩
    rintro rfl
    exact hnl (by simpa using ht)
  · exact absurd (List.mem_append_left _ ht) hnl

theorem eq_semicolon_of_mem_ending (l : ImportLine) : ∀ e ∈ l.ending, e = ';' := by
  intro e he
  unfold ImportLine.ending at he
  split at he
  · simpa using he
  · simp at he

theorem visible_from : ∀ e ∈ "from".toList, (!isBlank e) = true := by
  simpa using (by decide : isBlank 'f' = false ∧ isBlank 'r' = false ∧ isBlank 'o' = false ∧
    isBlank 'm' = false)

theorem visible_quoted (l : ImportLine) (hx : ∀ e ∈ x, e = ';') :
    ∀ e ∈ l.quoted ++ x, ¬ isBlank e := by
  intro e he
  rcases List.mem_append.mp he with he | he
  · exact l.frame.quoted_visible e he
  · rw [hx e he]
    decide

/-- The quoted specifier is one visible stretch, so no `from` stands alone in it. -/
theorem apart_quoted (l : ImportLine) (hx : ∀ e ∈ x, e = ';') :
    Apart (fun e => !isBlank e) "from".toList (l.quoted ++ x) := by
  have hne : l.quoted ++ x ≠ "from".toList := by
    intro h
    have hmark : l.mark = 'f' := (List.cons.inj h).1
    exact absurd l.isQuote_mark (by rw [hmark]; decide)
  have apart := Apart.name_append (p := fun e => !isBlank e) (by simp) visible_from
    (by simpa using visible_quoted l hx) hne (by simp) (Apart.nil (by simp))
  rwa [List.append_nil] at apart

section

variable {brk : Text} (l : ImportLine) (hbrk : ∀ e ∈ brk, isBlank e) (hnl : '\n' ∈ brk)
  (hrest : ∀ e ∈ rest.head?, ¬ isBlank e) (hfrom : ¬ "from".toList <+: rest)

include hbrk hnl hrest hfrom in
/-- Behind the specifier's `from` there is no other one up to the next line. -/
theorem quiet_from_behind :
    (spaced "from".toList).Quiet pre
      ("from".toList ++ (l.gap''.text ++ (l.quoted ++ l.ending) ++ brk)) rest := by
  have apart : Apart (fun e => !isBlank e) "from".toList (l.gap''.text ++ (l.quoted ++ l.ending)) := by
    refine .skip_append (by simp) visible_from ?_ (apart_quoted l (eq_semicolon_of_mem_ending l))
    intro e he
    simpa using l.gap''.isBlank_of_isIndent e he
  have ends : ∀ e ∈ (l.gap''.text ++ (l.quoted ++ l.ending)).getLast?, ¬ isBlank e := by
    intro e he
    rw [List.getLast?_append_of_ne_nil _ (by simp [ImportLine.quoted])] at he
    exact visible_quoted l (eq_semicolon_of_mem_ending l) e (List.mem_of_getLast? he)
  have brkhead : ∀ e ∈ (brk ++ rest).head?, isBlank e := by
    obtain ⟨d, s, rfl⟩ := List.exists_cons_of_ne_nil (List.ne_nil_of_mem hnl)
    simpa using hbrk d (by simp)
  refine .append (quiet_spaced_visible ?_) (.append ?_ ?_)
  · exact fun e he => by simpa using visible_from e he
  · exact quiet_spaced (by simp) visible_from apart ends brkhead
  · exact quiet_spaced_blank (by simp; decide) hbrk hrest hfrom

include hbrk hnl in
/-- The specifier is matched up to its closing quotation mark, the last one on the line. -/
theorem readsFirst_quoted :
    (one isQuote ++ (many isInline ++ one isQuote)).ReadsFirst pre l.quoted
      (l.ending ++ (brk ++ rest)) [] := by
  have mark : ∀ pre rest, (one isQuote).ReadsFirst pre [l.mark] rest [] :=
    fun _ _ => .one l.isQuote_mark
  refine (mark pre _).andThen
    (.many_append (isInline_of_mem_specifier l.specifier) (mark _ _) ?_)
  · rintro x y hxy hx hinline ⟨run, t, gs, rfl, hreads⟩
    obtain ⟨c, hc, rfl, -⟩ := reads_one.mp hreads
    have line : x ++ ([c] ++ t) = ([l.mark] ++ l.ending ++ brk) ++ rest := by rw [← hxy]; simp
    obtain ⟨z, hz, hzne, hsplit⟩ := exists_of_inline line hinline (by simp [hnl])
    obtain ⟨d, x, rfl⟩ := List.exists_cons_of_ne_nil hx
    obtain ⟨e, z, rfl⟩ := List.exists_cons_of_ne_nil hzne
    obtain ⟨rfl, -⟩ := List.cons.inj hsplit
    have hmem : c ∈ l.ending ++ brk := by
      rw [List.append_assoc] at hz
      have behind : l.ending ++ brk = x ++ c :: z := (List.cons.inj hz).2
      simp [behind]
    rcases List.mem_append.mp hmem with hmem | hmem
    · rw [eq_semicolon_of_mem_ending l c hmem] at hc
      exact absurd hc (by decide)
    · exact isQuote_not_isBlank hc (hbrk c hmem)

include hbrk hnl hrest hfrom in
/-- A written `import` statement is matched up to its closing quotation mark. -/
theorem readsFirst_import (hpre : StartsLine pre) :
    importStatement.ReadsFirst pre l.statement (l.ending ++ (brk ++ rest)) [] := by
  obtain ⟨init, b, hgap'⟩ := List.eq_nil_or_concat l.gap'.text |>.resolve_left l.gap'.ne_nil
  rw [List.concat_eq_append] at hgap'
  have hindent : ∀ e ∈ init ++ [b], isIndent e := by
    rw [← hgap']
    exact l.gap'.all
  have hb : isBlank b := Text.isBlank_of_isIndent (hindent b (by simp))
  have hmark : ¬ isBlank l.mark := isQuote_not_isBlank l.isQuote_mark
  have whole : l.statement = ([] ++ "import".toList ++ l.gap.text) ++ ((l.clause.text ++ init) ++
      (([b] ++ "from".toList ++ l.gap''.text) ++ l.quoted)) := by
    unfold ImportLine.statement ImportLine.head
    rw [hgap']
    simp
  have opening : (lineStart ++ word "import" ++ many1 isBlank).ReadsFirst pre
      ([] ++ "import".toList ++ l.gap.text) ((l.clause.text ++ init) ++
        (([b] ++ "from".toList ++ l.gap''.text) ++ l.quoted) ++ (l.ending ++ (brk ++ rest))) [] := by
    have start : ∀ rest, (lineStart ++ word "import").ReadsFirst pre ([] ++ "import".toList) rest [] :=
      fun _ => (ReadsFirst.lineStart hpre).andThen .literal
    refine (start _).andThen (.many1 l.gap.ne_nil l.gap.isBlank_of_isIndent ?_)
    have split : ∀ x : Text, l.clause.text ++ init ++ x = l.clause.text ++ (init ++ x) :=
      fun x => List.append_assoc _ _ x
    rw [List.append_assoc _ _ (l.ending ++ (brk ++ rest)), split]
    exact l.clause.head_visible
  have keyword : (spaced "from".toList).ReadsFirst
      (pre ++ ([] ++ "import".toList ++ l.gap.text) ++ (l.clause.text ++ init))
      ([b] ++ "from".toList ++ l.gap''.text) (l.quoted ++ (l.ending ++ (brk ++ rest))) [] := by
    refine readsFirst_spaced ?_ (by simp) l.gap''.ne_nil (by simpa using hb)
      l.gap''.isBlank_of_isIndent (by simpa [ImportLine.quoted] using hmark)
    simp
    decide
  have closing : ∀ pre, (one isQuote ++ (many isInline ++ one isQuote)).ReadsFirst pre l.quoted
      (l.ending ++ (brk ++ rest)) [] := fun _ => readsFirst_quoted l hbrk hnl
  rw [whole]
  refine opening.andThen (.many_append ?_ (keyword.andThen (closing _)) ?_)
  · intro e he
    rcases List.mem_append.mp he with he | he
    · exact isInline_of_isClauseChar (isClauseChar_of_mem_clause l.clause e he)
    · simpa [isInline] using ne_newline_of_isIndent (hindent e (List.mem_append_left _ he))
  · -- A longer run would leave another `from` for the rest of the pattern.
    intro x y hxy hx hinline hstarts
    have line : x ++ y = ([b] ++ ("from".toList ++ (l.gap''.text ++ (l.quoted ++ l.ending) ++ brk))) ++
        rest := by
      rw [← hxy]
      simp
    obtain ⟨z, hz, hzne, rfl⟩ := exists_of_inline line hinline (by simp [hnl])
    obtain ⟨d, x, rfl⟩ := List.exists_cons_of_ne_nil hx
    obtain ⟨rfl, hword⟩ := List.cons.inj hz
    have quiet : (spaced "from".toList).Quiet (pre ++ ([] ++ "import".toList ++ l.gap.text) ++
        (l.clause.text ++ init) ++ [b]) ("from".toList ++ (l.gap''.text ++ (l.quoted ++ l.ending) ++
          brk)) rest :=
      quiet_from_behind l hbrk hnl hrest hfrom
    refine quiet x z hword hzne ?_
    have separator := starts_left hstarts
    simpa using separator

end

/-! ## Places where a statement starts -/

/-- The pattern behind the start of a line. -/
def importBody : Pattern :=
  word "import" ++ (many1 isBlank ++ (many isInline ++ (spaced "from".toList ++ (one isQuote ++
    (many isInline ++ one isQuote)))))

/-- An `import` statement starts where a line starts and the rest of the pattern can be read. -/
theorem starts_import : importStatement.Starts pre t ↔ StartsLine pre ∧ importBody.Starts pre t := by
  have bracket : importStatement.Starts pre t ↔ (lineStart ++ importBody).Starts pre t :=
    starts_iff_of_matchHere rfl
  rw [bracket, starts_append]
  constructor
  · rintro ⟨_, _, _, rfl, hstart, hbody⟩
    obtain ⟨rfl, -, hpre⟩ := reads_lineStart.mp hstart
    exact ⟨hpre, by simpa using hbody⟩
  · rintro ⟨hpre, hbody⟩
    exact ⟨[], t, [], rfl, .lineStart hpre, by simpa using hbody⟩

theorem exists_of_starts_import (h : importStatement.Starts pre t) :
    StartsLine pre ∧ "import".toList <+: t := by
  obtain ⟨hpre, hbody⟩ := starts_import.mp h
  obtain ⟨_, t, _, rfl, hword, -⟩ := starts_append.mp hbody
  obtain ⟨rfl, -⟩ := reads_word.mp hword
  exact ⟨hpre, _, rfl⟩

/-! ## Splitting the match -/

theorem importKeyword_cut (gap : Gap) (hhead : ∀ e ∈ clause.head?, ¬ isBlank e) :
    importKeyword.cut ("import".toList ++ gap.text ++ clause) = some ([], clause) := by
  have visible : ∀ e ∈ ("import".toList ++ (gap.text ++ clause)).head?, ¬ isBlank e := by
    simp
    decide
  have start : (many isBlank ++ word "import").ReadsFirst [] ([] ++ "import".toList)
      (gap.text ++ clause) [] :=
    (ReadsFirst.many (by simp) visible).andThen .literal
  have keyword : importKeyword.ReadsFirst [] ([] ++ "import".toList ++ gap.text) clause [] :=
    start.andThen (.many1 gap.ne_nil gap.isBlank_of_isIndent hhead)
  exact cut_of_readsFirst .nil (by simp) keyword

/-- Text behind the closing mark does not change what a specifier is read as. -/
theorem specifier_trim_append {mark : Char} (hmark : isQuote mark)
    (hx : ∀ e ∈ x, ¬ isBlank e ∧ ¬ isQuote e) (y : Text) :
    specifier (trim (mark :: (x ++ [mark]) ++ y)) = x := by
  have visible : ∀ e ∈ mark :: (x ++ [mark]), ¬ isBlank e := by
    intro e he
    simp only [List.mem_cons, List.mem_append, List.not_mem_nil, or_false] at he
    rcases he with rfl | he | rfl
    · exact isQuote_not_isBlank hmark
    · exact (hx e he).1
    · exact isQuote_not_isBlank hmark
  obtain ⟨u, v, htrim, hlonger, -⟩ := exists_trim_append (isQuote_not_isBlank hmark) (mark :: x) y
  have trimmed : trim (mark :: (x ++ [mark])) = mark :: (x ++ [mark]) :=
    trim_eq_self (fun e he => visible e (List.mem_of_mem_head? he))
      fun e he => visible e (List.mem_of_getLast? he)
  rw [List.cons_append, trimmed] at htrim
  rw [List.cons_append] at hlonger
  have split : mark :: (x ++ [mark]) ++ v = mark :: (x ++ mark :: v) := by simp
  have inline : ∀ e ∈ x, isInline e := by
    intro e he
    simpa [isInline] using ne_newline_of_not_isBlank (hx e he).1
  rw [hlonger, ← htrim, split]
  exact specifier_of_closed hmark inline fun hmem => (hx mark hmem).2 hmark

/-- The clause stands behind the keyword in the first piece, and the specifier in the second one. -/
theorem splitImport_of_pieces (gap : Gap) (hhead : ∀ e ∈ clause.head?, ¬ isBlank e) {pieces : List Text}
    (h : fromKeyword.pieces t = ("import".toList ++ gap.text ++ clause) :: pieces) :
    splitImport t = (clause, specifier (trim (pieces.headD []))) := by
  have second : pieces.getD 0 [] = pieces.headD [] := by cases pieces <;> rfl
  unfold splitImport
  rw [h]
  simp only [List.headD_cons, List.getD_cons_succ, importKeyword_cut gap hhead, second]

/-- A statement that holds no `from` between white space before the one of its specifier is split into
its clause and its specifier, whatever stands behind it. -/
theorem splitImport_append_of_quiet (f : Frame) (hhead : ∀ e ∈ clause.head?, ¬ isBlank e) {z : Text}
    (quiet : (spaced "from".toList).Quiet [] ("import".toList ++ f.gap.text ++ clause)
      (f.gap'.text ++ "from".toList ++ f.gap''.text ++ (f.quoted ++ z))) :
    splitImport (f.statement clause ++ z) = (clause, f.specifier.text) := by
  have whole : f.statement clause ++ z = ("import".toList ++ f.gap.text ++ clause) ++
      (f.gap'.text ++ "from".toList ++ f.gap''.text ++ (f.quoted ++ z)) := by
    unfold Frame.statement Frame.opening
    simp
  have marked : ∀ e ∈ (f.quoted ++ z).head?, ¬ isBlank e := by
    simpa [Frame.quoted] using isQuote_not_isBlank f.isQuote_mark
  have separator : ∀ pre, (spaced "from".toList).ReadsFirst pre
      (f.gap'.text ++ "from".toList ++ f.gap''.text) (f.quoted ++ z) [] := fun pre =>
    readsFirst_spaced (by simp; decide) f.gap'.ne_nil f.gap''.ne_nil f.gap'.isBlank_of_isIndent
      f.gap''.isBlank_of_isIndent marked
  have pieces : fromKeyword.pieces (f.statement clause ++ z) = ("import".toList ++ f.gap.text ++ clause) ::
      (spaced "from".toList).piecesBehind ([] ++ ("import".toList ++ f.gap.text ++ clause) ++
        (f.gap'.text ++ "from".toList ++ f.gap''.text)) (f.quoted ++ z) := by
    rw [whole]
    exact piecesBehind_of_readsFirst quiet (by simp) (separator _)
  -- No `from` is cut at inside the quotation marks.
  have quoted : ∀ pre, (spaced "from".toList).Quiet pre f.quoted z :=
    fun _ => quiet_spaced_visible f.quoted_visible
  obtain ⟨y, -, hfirst⟩ := exists_headD_piecesBehind (quoted ([] ++ ("import".toList ++ f.gap.text ++
    clause) ++ (f.gap'.text ++ "from".toList ++ f.gap''.text)))
  have closed : specifier (trim (f.quoted ++ y)) = f.specifier.text :=
    specifier_trim_append f.isQuote_mark
      (fun e he => ⟨specifier_visible f.specifier e he, specifier_unquoted f.specifier e he⟩) y
  rw [splitImport_of_pieces f.gap hhead pieces, hfirst, closed]

/-- A written statement is split into its clause and its specifier, whatever stands behind it. -/
theorem splitImport_append (l : ImportLine) (z : Text) :
    splitImport (l.statement ++ z) = (l.clause.text, l.specifier.text) := by
  have quiet : (spaced "from".toList).Quiet [] l.head
      (l.gap'.text ++ "from".toList ++ l.gap''.text ++ (l.frame.quoted ++ z)) := by
    refine quiet_spaced (fun _ => not_isNameChar_of_isBlank) isNameChar_of_mem_from l.head_apart_from
      l.clause.last_visible ?_
    rw [List.append_assoc, List.append_assoc]
    exact isIndent_head_blank l.gap'
  rw [l.statement_eq]
  exact splitImport_append_of_quiet l.frame (by simpa using l.clause.head_visible (t := [])) quiet

/-- A written statement is split into its clause and its specifier. -/
theorem splitImport_statement (l : ImportLine) :
    splitImport l.statement = (l.clause.text, l.specifier.text) := by
  simpa using splitImport_append l []

end Kudos.Script
