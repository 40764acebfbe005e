import Mathlib
import Kudos.Proofs.Statement.ScriptImport

/-!
# Matching `require` statements

A written `require` statement is matched as it stands, with its list of names and its specifier as
groups (`readsFirst_require`). No line with an `import` statement holds the start of a `require`
statement (`quiet_require_import`): between the keyword and the equals sign no quotation mark may
stand, and behind the opening mark of a specifier there is no white space up to the next line.
-/

namespace Kudos.Script

open Text Pattern

variable {pre rest t x y : Text} {c : Char}

/-! ## The parts of the statement -/

/-- What assigns: the names with their braces and the white space up to the equals sign. -/
def requireNamesPart : Pattern :=
  optional (char '\x7b') ++ many isBlank ++ group (many1 isListChar) ++ many isBlank ++
    optional (char '\x7d') ++ many isBlank

/-- What is assigned, up to the semicolon. -/
def requireCallPart : Pattern :=
  many isBlank ++ word "require" ++ many isBlank ++ char '(' ++ many isBlank ++ one isQuote ++
    group (many1 fun c => !isQuote c) ++ one isQuote ++ many isBlank ++ char ')' ++
    many (· != ';') ++ char ';'

theorem readsFirst_no_blank (hc : ¬ isBlank c) : (many isBlank).ReadsFirst pre [] (c :: rest) [] :=
  .many (by simp) (by simpa using hc)

theorem readsFirst_some_blank (g : Space) (hrest : ∀ e ∈ rest.head?, ¬ isBlank e) :
    (many isBlank).ReadsFirst pre g.text rest [] :=
  .many g.isBlank_of_isIndent hrest

theorem readsFirst_no_char (h : ∀ e ∈ rest.head?, e ≠ c) :
    (Pattern.optional (char c)).ReadsFirst pre [] rest [] := by
  refine .optional_nil ?_
  rintro ⟨run, t, gs, rfl, hreads⟩
  obtain ⟨rfl, -⟩ := reads_char.mp hreads
  exact h c (by simp) rfl

/-! ## The names -/

theorem isListChar_of_isWord (h : isWord c) : isListChar c := by
  simp [isListChar, h]

theorem isListChar_of_isBlank (h : isBlank c) : isListChar c := by
  simp [isListChar, h]

theorem isListChar_of_mem_slot (s : Slot) : ∀ e ∈ s.text, isListChar e := by
  intro e he
  simp only [Slot.text, List.mem_append] at he
  rcases he with (he | he) | he
  · exact isListChar_of_isBlank (s.before.isBlank_of_isIndent e he)
  · exact isListChar_of_isWord (s.name.all e he)
  · exact isListChar_of_isBlank (s.behind.isBlank_of_isIndent e he)

theorem isListChar_of_mem_slots (first : Slot) (others : List Slot) :
    ∀ e ∈ writtenSlots first others, isListChar e := by
  intro e he
  rcases List.mem_append.mp he with he | he
  · exact isListChar_of_mem_slot first e he
  · obtain ⟨s, -, he⟩ := List.mem_flatMap.mp he
    rcases List.mem_cons.mp he with rfl | he
    · decide
    · exact isListChar_of_mem_slot s e he

/-- The first slot as the list group holds it: it starts with the name, and behind a single name it
goes on up to the equals sign. -/
def Target.first (before : Space) : Target → Slot
  | plain name => ⟨⟨[], by simp⟩, name, before⟩
  | braces first _ => ⟨⟨[], by simp⟩, first.name, first.behind⟩

/-- The slots behind it. -/
def Target.others : Target → List Slot
  | plain _ => []
  | braces _ others => others

/-- What the list group holds. -/
def RequireLine.list (l : RequireLine) : Text :=
  writtenSlots (l.target.first l.before) l.target.others

/-- Reading the names off the list group gives the names of the target. -/
theorem requireNames_list (l : RequireLine) : requireNames l.list = l.target.names := by
  rw [RequireLine.list, requireNames_writtenSlots]
  cases l.target <;> rfl

theorem exists_list_eq (l : RequireLine) :
    ∃ (name : Run1 isWord) (y : Text), l.list = name.text ++ y := by
  have starts : (l.target.first l.before).before.text = [] := by
    cases l.target <;> rfl
  refine ⟨(l.target.first l.before).name, (l.target.first l.before).behind.text ++
    l.target.others.flatMap fun s => ',' :: s.text, ?_⟩
  rw [RequireLine.list, writtenSlots, Slot.text, starts, List.nil_append, List.append_assoc]

theorem list_ne_nil (l : RequireLine) : l.list ≠ [] := by
  obtain ⟨name, y, hy⟩ := exists_list_eq l
  simp [hy, name.ne_nil]

theorem isWord_head_list (l : RequireLine) : ∀ e ∈ (l.list ++ t).head?, isWord e := by
  obtain ⟨name, y, hy⟩ := exists_list_eq l
  rw [hy, List.append_assoc]
  exact name.head

/-- The names are matched up to the equals sign, and their list is kept. -/
theorem readsFirst_names (l : RequireLine) : requireNamesPart.ReadsFirst pre
    (l.target.text ++ l.before.text) ('=' :: rest) [l.list] := by
  have visible : ∀ t : Text, ∀ e ∈ (l.list ++ t).head?, ¬ isBlank e :=
    fun t e he => not_isBlank_of_isWord (isWord_head_list l e he)
  have list : ∀ (pre : Text) (e : Char) (rest : Text), ¬ isListChar e →
      (group (many1 isListChar)).ReadsFirst pre l.list (e :: rest) [l.list] := fun _ _ _ he =>
    .group (.many1 (list_ne_nil l) (isListChar_of_mem_slots _ _) (by simpa using he))
  cases htarget : l.target with
  | plain name =>
    have whole : name.text ++ l.before.text = [] ++ [] ++ l.list ++ [] ++ [] ++ [] := by
      simp [RequireLine.list, htarget, Target.first, Target.others, writtenSlots, Slot.text]
    have opening : (Pattern.optional (char '\x7b')).ReadsFirst pre []
        ([] ++ (l.list ++ ('=' :: rest))) [] := by
      refine readsFirst_no_char ?_
      rintro e he rfl
      exact absurd (isWord_head_list l _ he) (by decide)
    have closing : ∀ pre, (Pattern.optional (char '\x7d')).ReadsFirst pre [] ('=' :: rest) [] :=
      fun _ => readsFirst_no_char (by simp)
    have blank : ∀ pre, (many isBlank).ReadsFirst pre [] ('=' :: rest) [] :=
      fun _ => readsFirst_no_blank (by decide)
    have before : ∀ pre, (many isBlank).ReadsFirst pre [] (l.list ++ ('=' :: rest)) [] :=
      fun _ => .many (by simp) (visible _)
    rw [Target.text, whole]
    exact ((((opening.andThen (before _)).andThen (list _ _ _ (by decide))).andThen
      (blank _)).andThen (closing _)).andThen (blank _)
  | braces first others =>
    have whole : '\x7b' :: (writtenSlots first others ++ ['\x7d']) ++ l.before.text =
        ['\x7b'] ++ first.before.text ++ l.list ++ [] ++ ['\x7d'] ++ l.before.text := by
      simp [RequireLine.list, htarget, Target.first, Target.others, writtenSlots, Slot.text]
    have opening : ∀ rest, (Pattern.optional (char '\x7b')).ReadsFirst pre ['\x7b'] rest [] :=
      fun _ => .optional .char
    have closing : ∀ pre rest, (Pattern.optional (char '\x7d')).ReadsFirst pre ['\x7d'] rest [] :=
      fun _ _ => .optional .char
    have gap : ∀ pre, (many isBlank).ReadsFirst pre l.before.text ('=' :: rest) [] :=
      fun _ => readsFirst_some_blank _ (by simpa using (by decide : ¬ isBlank '='))
    rw [Target.text, whole]
    exact (((((opening _).andThen (readsFirst_some_blank _ (visible _))).andThen
      (list _ '\x7d' (l.before.text ++ '=' :: rest) (by decide))).andThen
      (readsFirst_no_blank (by decide))).andThen (closing _ _)).andThen
      (gap _)

/-! ## The call -/

/-- What stands behind the equals sign. -/
def RequireLine.call (l : RequireLine) : Text :=
  l.behind.text ++ "require".toList ++ ['('] ++ [l.mark] ++ l.specifier.text ++ [l.mark] ++ [')'] ++
    [';']

/-- The call is matched up to the semicolon, and its specifier is kept. -/
theorem readsFirst_call (l : RequireLine) :
    requireCallPart.ReadsFirst pre l.call rest [l.specifier.text] := by
  have hmark : ¬ isBlank l.mark := isQuote_not_isBlank l.isQuote_mark
  have keyword : ∀ pre rest, (word "require").ReadsFirst pre "require".toList rest [] :=
    fun _ _ => .literal
  have gap : ∀ pre rest, (many isBlank).ReadsFirst pre l.behind.text ("require".toList ++ rest) [] :=
    fun _ _ => readsFirst_some_blank _ (by simp; decide)
  have blank : ∀ (pre : Text) (e : Char) (rest : Text), ¬ isBlank e →
      (many isBlank).ReadsFirst pre [] (e :: rest) [] := fun _ _ _ he => readsFirst_no_blank he
  have mark : ∀ pre rest, (one isQuote).ReadsFirst pre [l.mark] rest [] :=
    fun _ _ => .one l.isQuote_mark
  have specifier : ∀ pre rest, (group (many1 fun c => !isQuote c)).ReadsFirst pre l.specifier.text
      (l.mark :: rest) [l.specifier.text] := by
    intro pre rest
    refine .group (.many1 l.specifier.ne_nil ?_ ?_)
    · simpa using specifier_unquoted l.specifier
    · simpa using l.isQuote_mark
  have single : ∀ (e : Char) pre rest, (char e).ReadsFirst pre [e] rest [] := fun _ _ _ => .char
  have inside : ∀ pre rest, (many (· != ';')).ReadsFirst pre [] (';' :: rest) [] :=
    fun _ _ => .many (by simp) (by simp)
  have whole : l.call = l.behind.text ++ "require".toList ++ [] ++ ['('] ++ [] ++ [l.mark] ++
      l.specifier.text ++ [l.mark] ++ [] ++ [')'] ++ [] ++ [';'] := by
    simp [RequireLine.call]
  rw [whole]
  exact (((((((((((gap _ _).andThen (keyword _ _)).andThen (blank _ '(' _ (by decide))).andThen
    (single _ _ _)).andThen (blank _ _ _ hmark)).andThen (mark _ _)).andThen
    (specifier _ _)).andThen (mark _ _)).andThen (blank _ ')' _ (by decide))).andThen
    (single _ _ _)).andThen (inside _ _)).andThen (single _ _ _)

/-! ## The statement -/

theorem readsFirst_keyword (l : RequireLine) :
    (word "const" <|> word "let").ReadsFirst pre l.keyword rest [] := by
  unfold RequireLine.keyword
  split
  · refine .right ?_ .literal
    rintro ⟨run, t, gs, hsplit, hreads⟩
    obtain ⟨rfl, -⟩ := reads_word.mp hreads
    simp at hsplit
  · exact .left .literal

theorem Target.head_visible (target : Target) : ∀ e ∈ (target.text ++ t).head?, ¬ isBlank e := by
  cases target with
  | plain name => exact fun e he => not_isBlank_of_isWord (name.head e he)
  | braces first others =>
    simp only [Target.text, List.cons_append, List.head?_cons, Option.mem_some_iff, forall_eq']
    decide

/-- A written `require` statement is matched as it stands, and its list and its specifier are kept. -/
theorem readsFirst_require (l : RequireLine) :
    requireStatement.ReadsFirst pre l.text rest [l.list, l.specifier.text] := by
  have whole : l.text = (l.keyword ++ l.gap.text) ++
      ((l.target.text ++ l.before.text) ++ (['='] ++ l.call)) := by
    simp [RequireLine.text, RequireLine.call]
  have gap : ∀ pre, (many1 isBlank).ReadsFirst pre l.gap.text
      (((l.target.text ++ l.before.text) ++ (['='] ++ l.call)) ++ rest) [] := by
    intro pre
    refine .many1 l.gap.ne_nil l.gap.isBlank_of_isIndent ?_
    rw [List.append_assoc, List.append_assoc]
    exact l.target.head_visible
  have equals : ∀ pre rest, (char '=').ReadsFirst pre ['='] rest [] := fun _ _ => .char
  have names : ∀ pre, requireNamesPart.ReadsFirst pre (l.target.text ++ l.before.text)
      ((['='] ++ l.call) ++ rest) [l.list] := fun _ => readsFirst_names l
  rw [whole]
  exact ((readsFirst_keyword l).andThen (gap _)).andThen
    ((names _).andThen ((equals _ _).andThen (readsFirst_call l)))

/-! ## Places where no statement starts -/

theorem not_isListChar_of_isQuote (h : isQuote c) : ¬ isListChar c := by
  rcases Bool.or_eq_true _ _ |>.mp h with h | h
  · obtain rfl : c = '\'' := by simpa using h
    decide
  · obtain rfl : c = '"' := by simpa using h
    decide

/-- What stands between the keyword and the equals sign is neither a quotation mark nor another equals
sign. -/
theorem not_mark_of_isListChar (h : isListChar c) : ¬ isQuote c ∧ c ≠ '=' := by
  refine ⟨fun hq => not_isListChar_of_isQuote hq h, ?_⟩
  rintro rfl
  exact absurd h (by decide)

/-- Before the equals sign neither quotation marks nor equals signs are read. -/
theorem readsOnly_names :
    (many isBlank ++ requireNamesPart).ReadsOnly fun c => ¬ isQuote c ∧ c ≠ '=' := by
  have list : ∀ c, isListChar c → ¬ isQuote c ∧ c ≠ '=' := fun _ => not_mark_of_isListChar
  have blank : ∀ c, isBlank c → ¬ isQuote c ∧ c ≠ '=' := fun c hc => list c (isListChar_of_isBlank hc)
  have single : ∀ d, ¬ isQuote d ∧ d ≠ '=' → ∀ c, (c == d) = true → ¬ isQuote c ∧ c ≠ '=' := by
    intro d hd c hc
    rwa [eq_of_beq hc]
  have opening := readsOnly_optional (a := char '\x7b') (single '\x7b' (by decide))
  have closing := readsOnly_optional (a := char '\x7d') (single '\x7d' (by decide))
  exact ⟨blank, ⟨⟨⟨⟨opening, blank⟩, list, list⟩, blank⟩, closing⟩, blank⟩

/-- What stands where a `require` statement can be read: a keyword, white space, and an equals sign
with no quotation mark before it. -/
theorem exists_of_starts_require (h : requireStatement.Starts pre t) :
    ∃ kw b u v, (kw = "const".toList ∨ kw = "let".toList) ∧ isBlank b ∧
      (∀ e ∈ u, ¬ isQuote e ∧ e ≠ '=') ∧ t = kw ++ b :: (u ++ '=' :: v) := by
  have bracket : requireStatement.Starts pre t ↔ ((word "const" <|> word "let") ++ (one isBlank ++
      ((many isBlank ++ requireNamesPart) ++ (char '=' ++ requireCallPart)))).Starts pre t :=
    starts_iff_of_matchHere rfl
  obtain ⟨kw, _, _, rfl, hkw, hblank⟩ := starts_append.mp (bracket.mp h)
  obtain ⟨blank, _, _, rfl, hb, hnames⟩ := starts_append.mp hblank
  obtain ⟨u, _, _, rfl, hu, hequals⟩ := starts_append.mp hnames
  obtain ⟨equals, v, _, rfl, heq, -⟩ := starts_append.mp hequals
  obtain ⟨b, isBlank_b, rfl, -⟩ := reads_one.mp hb
  obtain ⟨rfl, -⟩ := reads_char.mp heq
  refine ⟨kw, b, u, v, ?_, isBlank_b, hu.forall_mem readsOnly_names, rfl⟩
  rcases reads_orElse.mp hkw with hkw | hkw
  · exact .inl (reads_word.mp hkw).1
  · exact .inr (reads_word.mp hkw).1

/-- A statement starts with one of two letters. -/
theorem quiet_require_of_forall (h : ∀ e ∈ x, e ≠ 'c' ∧ e ≠ 'l') : requireStatement.Quiet pre x t := by
  refine quiet_of_forall fun c hc u v hstarts => ?_
  obtain ⟨kw, _, _, _, hkw, -, -, hsplit⟩ := exists_of_starts_require hstarts
  rcases hkw with rfl | rfl
  · exact (h c hc).1 (List.cons.inj hsplit).1
  · exact (h c hc).2 (List.cons.inj hsplit).1

theorem keyword_visible {kw : Text} (h : kw = "const".toList ∨ kw = "let".toList) :
    ∀ e ∈ kw, isWord e := by
  rcases h with rfl | rfl
  · simpa using (by decide : isWord 'c' ∧ isWord 'o' ∧ isWord 'n' ∧ isWord 's' ∧ isWord 't')
  · simpa using (by decide : isWord 'l' ∧ isWord 'e' ∧ isWord 't')

/-- No statement starts before a quotation mark when no equals sign comes first. -/
theorem quiet_require_before_mark (hx : ∀ e ∈ x, ¬ isQuote e ∧ e ≠ '=') (hc : isQuote c) :
    requireStatement.Quiet pre x (c :: t) := by
  rintro y z rfl - hstarts
  obtain ⟨kw, b, u, v, hkw, hb, hu, hsplit⟩ := exists_of_starts_require hstarts
  have before : ∀ e ∈ kw ++ b :: u, ¬ isQuote e ∧ e ≠ '=' := by
    intro e he
    simp only [List.mem_append, List.mem_cons] at he
    rcases he with he | rfl | he
    · exact not_mark_of_isListChar (isListChar_of_isWord (keyword_visible hkw e he))
    · exact not_mark_of_isListChar (isListChar_of_isBlank hb)
    · exact hu e he
  have cut : z ++ c :: t = (kw ++ b :: u) ++ '=' :: v := by simpa using hsplit
  obtain ⟨-, rfl, -⟩ := eq_of_first (p := fun e => isQuote e || e = '=') cut
    (fun e he => by simpa using hx e (by simp [he])) (fun e he => by simpa using before e he)
    (by simp [hc]) (by simp)
  exact absurd hc (by decide)

/-- No statement starts inside a specifier: no white space follows the keyword. -/
theorem quiet_require_specifier (s : Specifier) (hc : isQuote c) :
    requireStatement.Quiet pre s.text (c :: t) := by
  rintro y z hyz - hstarts
  obtain ⟨kw, b, u, v, hkw, hb, -, hsplit⟩ := exists_of_starts_require hstarts
  have inside : ∀ e ∈ z, ¬ isQuote e ∧ ¬ isBlank e := by
    intro e he
    have hmem : e ∈ s.text := by simp [hyz, he]
    exact ⟨specifier_unquoted s e hmem, specifier_visible s e hmem⟩
  have keyword : ∀ e ∈ kw, ¬ isQuote e ∧ ¬ isBlank e := by
    intro e he
    have hword := keyword_visible hkw e he
    exact ⟨(not_mark_of_isListChar (isListChar_of_isWord hword)).1, not_isBlank_of_isWord hword⟩
  obtain ⟨-, rfl, -⟩ := eq_of_first (p := fun e => isQuote e || isBlank e) hsplit
    (fun e he => by simpa using inside e he) (fun e he => by simpa using keyword e he)
    (by simp [hc]) (by simp [hb])
  exact isQuote_not_isBlank hc hb

theorem not_mark_of_isClauseChar (h : isClauseChar c) : ¬ isQuote c ∧ c ≠ '=' := by
  refine ⟨fun hq => ?_, ?_⟩
  · rcases Bool.or_eq_true _ _ |>.mp hq with hq | hq
    · obtain rfl : c = '\'' := by simpa using hq
      exact absurd h (by decide)
    · obtain rfl : c = '"' := by simpa using hq
      exact absurd h (by decide)
  · rintro rfl
    exact absurd h (by decide)

/-- No `require` statement starts on a line with an `import` statement. -/
theorem Frame.quiet_require {clause y : Text} (f : Frame) (hclause : ∀ e ∈ clause, isClauseChar e)
    (hy : ∀ e ∈ y, e = ';' ∨ isBlank e) : requireStatement.Quiet pre (f.statement clause ++ y) rest := by
  have whole : f.statement clause ++ y =
      f.opening clause ++ ([f.mark] ++ (f.specifier.text ++ (f.mark :: y))) := by
    unfold Frame.statement Frame.quoted
    simp
  have letters : ∀ e, isQuote e ∨ e = ';' ∨ isBlank e → e ≠ 'c' ∧ e ≠ 'l' := by
    rintro e he
    constructor
    · rintro rfl
      exact absurd he (by decide)
    · rintro rfl
      exact absurd he (by decide)
  rw [whole]
  refine .append ?_ (.append ?_ (.append ?_ ?_))
  · exact quiet_require_before_mark
      (fun e he => not_mark_of_isClauseChar (f.isClauseChar_opening hclause e he)) f.isQuote_mark
  · refine quiet_require_of_forall fun e he => letters e (.inl ?_)
    rw [List.mem_singleton.mp he]
    exact f.isQuote_mark
  · exact quiet_require_specifier f.specifier f.isQuote_mark
  · refine quiet_require_of_forall fun e he => letters e ?_
    rcases List.mem_cons.mp he with rfl | he
    · exact .inl f.isQuote_mark
    · exact .inr (hy e he)

theorem quiet_require_import {brk : Text} (l : ImportLine) (hbrk : ∀ e ∈ brk, isBlank e) :
    requireStatement.Quiet pre (l.text ++ brk) rest := by
  have behind : ∀ e ∈ l.ending ++ brk, e = ';' ∨ isBlank e := by
    intro e he
    rcases List.mem_append.mp he with he | he
    · exact .inl (eq_semicolon_of_mem_ending l e he)
    · exact .inr (hbrk e he)
  rw [ImportLine.text, List.append_assoc, l.statement_eq]
  exact l.frame.quiet_require (isClauseChar_of_mem_clause l.clause) behind

end Kudos.Script
