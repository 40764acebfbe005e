import Mathlib
import Kudos.Proofs.Statement.Keyword
import Kudos.Proofs.Statement.PythonDocument

/-!
# Star imports

The list of a statement may hold a star, but the statement has to end at the edge of a word, and behind a
star there is none. So a line with `from m import *` has a statement exactly if the list goes on to a name
(`star_statementLine_iff`), and blanks and a comment are no name.
-/

namespace Kudos.Python

open Text Pattern

variable {pre rest t u x y before : Text} {c : Char} {d : Document} {i : Nat}

/-! ## Lines with a star -/

/-- A line with `from m import *`. -/
structure StarLine where
  indent : Indent
  origin : Origin
  gap : Gap
  /-- What follows the star. -/
  behind : Text

/-- The line up to the keyword before the star. -/
def StarLine.opening (l : StarLine) : Text :=
  l.indent.text ++ (l.origin.text ++ "import".toList)

/-- The line as written. -/
def StarLine.text (l : StarLine) : Text :=
  l.opening ++ (l.gap.text ++ '*' :: l.behind)

/-- What a list is written with apart from names. -/
def isMark (c : Char) : Bool :=
  c = '*' || c = ',' || c = ' '

/-- What may stand between the star and the first character of a name. -/
inductive BeforeName : Text → Prop where
  /-- The list goes on. -/
  | list {x : Text} (h : ∀ e ∈ x, isMark e) : BeforeName x
  /-- An alias follows. -/
  | renamed {x : Text} (h : ∀ e ∈ x, isMark e) (gap gap' : Gap) :
    BeforeName (x ++ (gap.text ++ "as".toList ++ gap'.text))

/-- Whether a name follows a star. -/
def NameFollows (t : Text) : Prop :=
  ∃ x c y, t = x ++ c :: y ∧ BeforeName x ∧ isWord c

/-- Whether a text is blank up to a comment, if it has one. -/
def OnlyRemark (t : Text) : Prop :=
  ∃ (trailing : Run isBlank) (remark : Text), t = trailing.text ++ remark ∧ ∀ e ∈ remark.head?, e = '#'

theorem isMark_of_isListChar (h : isListChar c) (hword : ¬ isWord c) : isMark c := by
  simp only [isListChar, Bool.or_eq_true, or_assoc] at h
  simpa only [isMark, Bool.or_eq_true, or_assoc] using h.resolve_left hword

theorem isListChar_of_isMark (h : isMark c) : isListChar c := by
  simp only [isMark, Bool.or_eq_true, decide_eq_true_eq] at h
  rcases h with (rfl | rfl) | rfl <;> decide

theorem not_isWord_of_isMark (h : isMark c) : ¬ isWord c := by
  simp only [isMark, Bool.or_eq_true, decide_eq_true_eq] at h
  rcases h with (rfl | rfl) | rfl <;> decide

/-! ## What follows the star -/

/-- Neither a comment nor the end of the line comes before the name. -/
theorem BeforeName.ne_of_mem (h : BeforeName x) : ∀ e ∈ x, e ≠ '#' ∧ e ≠ '\r' ∧ e ≠ '\n' := by
  have mark : ∀ e, isMark e → e ≠ '#' ∧ e ≠ '\r' ∧ e ≠ '\n' := by
    intro e he
    simp only [isMark, Bool.or_eq_true, decide_eq_true_eq] at he
    rcases he with (rfl | rfl) | rfl <;> decide
  have indent : ∀ e, isIndent e → e ≠ '#' ∧ e ≠ '\r' ∧ e ≠ '\n' := by
    intro e he
    simp only [isIndent, Bool.or_eq_true, decide_eq_true_eq] at he
    rcases he with rfl | rfl <;> decide
  cases h with
  | list hx => exact fun e he => mark e (hx e he)
  | renamed hx gap gap' =>
    intro e he
    simp only [List.mem_append] at he
    rcases he with he | (he | he) | he
    · exact mark e (hx e he)
    · exact indent e (gap.all e he)
    · have letters : e = 'a' ∨ e = 's' := by simpa using he
      rcases letters with rfl | rfl <;> decide
    · exact indent e (gap'.all e he)

theorem ne_of_isWord (h : isWord c) : c ≠ '#' ∧ c ≠ '\r' ∧ c ≠ '\n' := by
  refine ⟨?_, ?_, ?_⟩ <;>
  · rintro rfl
    exact absurd h (by decide)

/-- A name that follows stands on the same line. -/
theorem nameFollows_append (hrest : ∀ e ∈ rest.head?, e = '\r' ∨ e = '\n') :
    NameFollows (t ++ rest) ↔ NameFollows t := by
  constructor
  · rintro ⟨x, c, y, hsplit, hx, hc⟩
    have cut : t ++ rest = (x ++ [c]) ++ y := by simp [hsplit]
    rcases List.append_eq_append_iff.mp cut with ⟨w, hw, rfl⟩ | ⟨w, rfl, -⟩
    · cases w with
      | nil => exact ⟨x, c, [], by simpa using hw.symm, hx, hc⟩
      | cons e w =>
        have inside : e ∈ x ++ [c] := by simp [hw]
        have outside := hrest e (by simp)
        have ne : e ≠ '#' ∧ e ≠ '\r' ∧ e ≠ '\n' := by
          rcases List.mem_append.mp inside with he | he
          · exact hx.ne_of_mem e he
          · exact ne_of_isWord (List.mem_singleton.mp he ▸ hc)
        rcases outside with rfl | rfl
        · exact absurd rfl ne.2.1
        · exact absurd rfl ne.2.2
    · exact ⟨x, c, w, by simp, hx, hc⟩
  · rintro ⟨x, c, y, rfl, hx, hc⟩
    exact ⟨x, c, y ++ rest, by simp, hx, hc⟩

theorem OnlyRemark.not_nameFollows (h : OnlyRemark t) : ¬ NameFollows t := by
  rintro ⟨x, c, y, hsplit, hx, hc⟩
  obtain ⟨trailing, remark, rfl, hremark⟩ := h
  -- the first visible character before the name is not the one of a comment
  obtain ⟨u, e, v, hfirst, hu, he⟩ := exists_first (p := fun e => !isBlank e) (t := x ++ [c])
    ⟨c, by simp, by simpa using not_isBlank_of_isWord hc⟩
  have inside : e ∈ x ++ [c] := by simp [hfirst]
  have ne : e ≠ '#' := by
    rcases List.mem_append.mp inside with hmem | hmem
    · exact (hx.ne_of_mem e hmem).1
    · exact (ne_of_isWord (List.mem_singleton.mp hmem ▸ hc)).1
  have cut : trailing.text ++ remark = u ++ e :: (v ++ y) := by
    have whole : x ++ c :: y = (x ++ [c]) ++ y := by simp
    rw [hsplit, whole, hfirst]
    simp
  have blank : ∀ e ∈ trailing.text, ¬ (!isBlank e) := by simpa using trailing.all
  cases remark with
  | nil =>
    have hmem : e ∈ trailing.text := by
      rw [List.append_nil] at cut
      simp [cut]
    exact blank e hmem he
  | cons e' remark =>
    obtain rfl : e' = '#' := hremark e' (by simp)
    obtain ⟨-, heq, -⟩ := eq_of_first (p := fun e => !isBlank e) cut blank hu (by decide) he
    exact ne heq.symm

/-! ## Reading the list -/

/-- The pattern of a statement behind `import`. -/
def nameList : Pattern :=
  many1 isIndent ++ (many1 isListChar ++ (Pattern.optional lastAlias ++ wordEdge))

theorem starts_wordEdge : wordEdge.Starts pre t ↔ EdgeBetween pre t := by
  constructor
  · rintro ⟨_, _, _, rfl, hreads⟩
    obtain ⟨rfl, -, hedge⟩ := reads_wordEdge.mp hreads
    exact hedge
  · exact fun hedge => ⟨[], t, [], rfl, .wordEdge hedge⟩

theorem reads_lastAlias {run : Text} {gs : List Text} (h : lastAlias.Reads pre run rest gs) :
    ∃ (gap gap' : Gap) (c : Char) (w : Text), run = gap.text ++ "as".toList ++ gap'.text ++ c :: w ∧
      isWord c := by
  obtain ⟨_, name, _, _, rfl, -, h, hname⟩ := reads_append.mp h
  obtain ⟨_, g', _, _, rfl, -, h, hgap'⟩ := reads_append.mp h
  obtain ⟨g, _, _, _, rfl, -, hgap, hword⟩ := reads_append.mp h
  obtain ⟨hne, hall, -⟩ := reads_many1.mp hgap
  obtain ⟨hne', hall', -⟩ := reads_many1.mp hgap'
  obtain ⟨hname_ne, hname_all, -⟩ := reads_many1.mp hname
  obtain ⟨rfl, -⟩ := reads_word.mp hword
  obtain ⟨c, w, rfl⟩ := List.exists_cons_of_ne_nil hname_ne
  exact ⟨⟨⟨g, hall⟩, hne⟩, ⟨⟨g', hall'⟩, hne'⟩, c, w, rfl, hname_all c (by simp)⟩

/-- Behind no word there is an edge exactly if a word follows. -/
theorem edgeBetween_iff (hpre : ∀ e ∈ pre.getLast?, ¬ isWord e) :
    EdgeBetween pre t ↔ ∃ c y, t = c :: y ∧ isWord c := by
  have left : pre.getLast?.any isWord = false := by
    cases hlast : pre.getLast? with
    | none => rfl
    | some e => simpa using hpre e hlast
  rw [EdgeBetween, left]
  cases t with
  | nil => simp
  | cons c y => simp

/-- Before the star the list cannot end. -/
theorem not_starts_ending_star (hpre : ∀ e ∈ pre.getLast?, ¬ isWord e) (hu : ∀ e ∈ u, isIndent e) :
    ¬ (Pattern.optional lastAlias ++ wordEdge).Starts pre (u ++ '*' :: t) := by
  intro hstarts
  obtain ⟨run, v, _, hsplit, halias, hedge⟩ := starts_append.mp hstarts
  rcases reads_optional.mp halias with halias | ⟨rfl, -⟩
  · obtain ⟨gap, gap', c, w, rfl, -⟩ := reads_lastAlias halias
    have cut : u ++ '*' :: t = gap.text ++ ("as".toList ++ (gap'.text ++ c :: w) ++ v) := by
      rw [hsplit]
      simp
    obtain ⟨-, hbehind⟩ := eq_of_run cut hu gap.all (by simp; decide) (by simp; decide)
    simp at hbehind
  · rw [List.append_nil, starts_wordEdge] at hedge
    rw [List.nil_append] at hsplit
    obtain ⟨c, y, rfl, hc⟩ := (edgeBetween_iff hpre).mp hedge
    cases u with
    | nil =>
      obtain rfl : '*' = c := (List.cons.inj hsplit).1
      exact absurd hc (by decide)
    | cons e u =>
      obtain rfl : e = c := (List.cons.inj hsplit).1
      exact not_isWord_of_isIndent (hu e (by simp)) hc

theorem nameFollows_of_ending (hx : ∀ e ∈ x, isMark e) (hpre : ∀ e ∈ pre.getLast?, ¬ isWord e)
    (h : (Pattern.optional lastAlias ++ wordEdge).Starts pre t) : NameFollows (x ++ t) := by
  obtain ⟨run, rest, _, rfl, halias, hedge⟩ := starts_append.mp h
  rcases reads_optional.mp halias with halias | ⟨rfl, -⟩
  · obtain ⟨gap, gap', c, w, rfl, hc⟩ := reads_lastAlias halias
    exact ⟨_, c, w ++ rest, by simp, .renamed hx gap gap', hc⟩
  · rw [List.append_nil, starts_wordEdge] at hedge
    obtain ⟨c, y, rfl, hc⟩ := (edgeBetween_iff hpre).mp hedge
    exact ⟨x, c, y, by simp, .list hx, hc⟩

theorem not_isWord_last (hx : ∀ e ∈ x, ¬ isWord e) : ∀ e ∈ (pre ++ '*' :: x).getLast?, ¬ isWord e := by
  intro e he
  rw [List.getLast?_append_of_ne_nil _ (by simp)] at he
  rcases List.mem_cons.mp (List.mem_of_getLast? he) with rfl | he
  · decide
  · exact hx e he

theorem nameFollows_of_list (hx : ∀ e ∈ x, isListChar e)
    (h : (Pattern.optional lastAlias ++ wordEdge).Starts (pre ++ '*' :: x) t) : NameFollows (x ++ t) := by
  by_cases hword : ∃ e ∈ x, isWord e
  · obtain ⟨u, c, v, rfl, hu, hc⟩ := exists_first hword
    have marks : ∀ e ∈ u, isMark e := fun e he =>
      isMark_of_isListChar (hx e (List.mem_append_left _ he)) (hu e he)
    exact ⟨u, c, v ++ t, by simp, .list marks, hc⟩
  · push Not at hword
    have marks : ∀ e ∈ x, isMark e := fun e he => isMark_of_isListChar (hx e he) (hword e he)
    exact nameFollows_of_ending marks (not_isWord_last hword) h

theorem starts_ending_of_isWord (hpre : ∀ e ∈ pre.getLast?, ¬ isWord e) (hc : isWord c) :
    (Pattern.optional lastAlias ++ wordEdge).Starts pre (c :: t) := by
  refine starts_append.mpr ⟨[], c :: t, [], rfl, reads_optional.mpr (.inr ⟨rfl, rfl⟩), ?_⟩
  rw [List.append_nil, starts_wordEdge]
  exact (edgeBetween_iff hpre).mpr ⟨c, t, rfl, hc⟩

theorem starts_ending_of_alias (gap gap' : Gap) (hc : isWord c) :
    (Pattern.optional lastAlias ++ wordEdge).Starts pre
      (gap.text ++ "as".toList ++ gap'.text ++ c :: t) := by
  obtain ⟨w, z, hsplit, hw, hz⟩ := exists_run isWord (c :: t)
  have hne : w ≠ [] := by
    rintro rfl
    rw [List.nil_append] at hsplit
    exact hz c (by simp [← hsplit]) hc
  have renamed : lastAlias.Reads pre (gap.text ++ "as".toList ++ gap'.text ++ w) z [] := by
    refine reads_append.mpr ⟨_, w, [], [], rfl, rfl, ?_, reads_many1.mpr ⟨hne, hw, rfl⟩⟩
    refine reads_append.mpr ⟨_, gap'.text, [], [], rfl, rfl, ?_,
      reads_many1.mpr ⟨gap'.ne_nil, gap'.all, rfl⟩⟩
    exact reads_append.mpr ⟨gap.text, _, [], [], rfl, rfl,
      reads_many1.mpr ⟨gap.ne_nil, gap.all, rfl⟩, .literal⟩
  rw [hsplit, ← List.append_assoc]
  refine starts_append.mpr ⟨_, z, [], rfl, reads_optional.mpr (.inl renamed), ?_⟩
  have last : ∃ e ∈ (pre ++ (gap.text ++ "as".toList ++ gap'.text ++ w)).getLast?, isWord e := by
    refine ⟨w.getLast hne, ?_, hw _ (List.getLast_mem hne)⟩
    rw [← List.append_assoc, List.getLast?_append_of_ne_nil _ hne]
    exact List.getLast?_eq_some_getLast hne
  obtain ⟨e, he, hword⟩ := last
  have head : z.head?.any isWord = false := by
    cases z with
    | nil => rfl
    | cons e z => simpa using hz e (by simp)
  rw [starts_wordEdge, EdgeBetween, head, Option.mem_def.mp he]
  simpa using hword

theorem nameFollows_of_starts (gap : Gap) (h : nameList.Starts pre (gap.text ++ '*' :: t)) :
    NameFollows t := by
  obtain ⟨r, _, _, hsplit, hr, hlist⟩ := starts_append.mp h
  obtain ⟨list, v, _, rfl, hread, hend⟩ := starts_append.mp hlist
  obtain ⟨-, hr, -⟩ := reads_many1.mp hr
  obtain ⟨hne, hlist, -⟩ := reads_many1.mp hread
  -- the blanks before the list end before the star
  obtain ⟨g, hgap, hbehind⟩ : ∃ g, gap.text = r ++ g ∧ list ++ v = g ++ '*' :: t := by
    rcases List.append_eq_append_iff.mp hsplit with ⟨w, rfl, hw⟩ | ⟨w, hw, hbehind⟩
    · cases w with
      | nil => exact ⟨[], by simp, by simpa using hw.symm⟩
      | cons e w =>
        obtain rfl : '*' = e := (List.cons.inj hw).1
        exact absurd (hr '*' (by simp)) (by decide)
    · exact ⟨w, hw, hbehind⟩
  have hg : ∀ e ∈ g, isIndent e := fun e he => gap.all e (by simp [hgap, he])
  have early : ∀ w, g = list ++ w → v ≠ w ++ '*' :: t := by
    rintro w rfl rfl
    refine not_starts_ending_star (fun e he => ?_) (fun e he => hg e (by simp [he])) hend
    rw [List.getLast?_append_of_ne_nil _ hne] at he
    exact not_isWord_of_isIndent (hg e (List.mem_append_left _ (List.mem_of_getLast? he)))
  rcases List.append_eq_append_iff.mp hbehind with ⟨w, hw, hv⟩ | ⟨w, rfl, hw⟩
  · exact absurd hv (early w hw)
  · cases w with
    | nil => exact absurd hw.symm (early [] (by simp))
    | cons e x =>
      obtain ⟨rfl, rfl⟩ := List.cons.inj hw
      rw [← List.append_assoc] at hend
      exact nameFollows_of_list (fun e he => hlist e (by simp [he])) hend

theorem starts_of_nameFollows (gap : Gap) (h : NameFollows t) :
    nameList.Starts pre (gap.text ++ '*' :: t) := by
  obtain ⟨x, c, y, rfl, hx, hc⟩ := h
  have blanks : ∀ rest, (many1 isIndent).Reads pre gap.text rest [] :=
    fun _ => reads_many1.mpr ⟨gap.ne_nil, gap.all, rfl⟩
  have list : ∀ x rest, (∀ e ∈ x, isMark e) →
      (many1 isListChar).Reads (pre ++ gap.text) ('*' :: x) rest [] := by
    intro x rest hx
    refine reads_many1.mpr ⟨by simp, fun e he => ?_, rfl⟩
    rcases List.mem_cons.mp he with rfl | he
    · decide
    · exact isListChar_of_isMark (hx e he)
  cases hx with
  | list hx =>
    refine starts_append.mpr ⟨gap.text, _, [], rfl, blanks _, ?_⟩
    refine starts_append.mpr ⟨'*' :: x, c :: y, [], rfl, list x _ hx, ?_⟩
    exact starts_ending_of_isWord (not_isWord_last fun e he => not_isWord_of_isMark (hx e he)) hc
  | @renamed x hx g g' =>
    refine starts_append.mpr ⟨gap.text, _, [], rfl, blanks _, ?_⟩
    refine starts_append.mpr ⟨'*' :: x, g.text ++ "as".toList ++ g'.text ++ c :: y, [], by simp,
      list x _ hx, ?_⟩
    exact starts_ending_of_alias g g' hc

/-- The list is read behind a star exactly if a name follows. -/
theorem starts_nameList (gap : Gap) : nameList.Starts pre (gap.text ++ '*' :: t) ↔ NameFollows t :=
  ⟨nameFollows_of_starts gap, starts_of_nameFollows gap⟩

/-! ## Reading the line -/

theorem Origin.text_append (o : Origin) (t : Text) :
    o.text ++ t = "from".toList ++ (o.gap.text ++ (o.module.text ++ (o.gap'.text ++ t))) := by
  change "from".toList ++ o.gap.text ++ o.module.text ++ o.gap'.text ++ t = _
  simp only [List.append_assoc]

theorem Origin.head (o : Origin) : ∀ e ∈ (o.text ++ t).head?, e = 'f' := by
  rw [o.text_append]
  simp

theorem Origin.reads_text (o : Origin) : fromClause.Reads pre o.text rest [] := by
  refine reads_append.mpr ⟨_, o.gap'.text, [], [], rfl, rfl, ?_,
    reads_many1.mpr ⟨o.gap'.ne_nil, o.gap'.all, rfl⟩⟩
  refine reads_append.mpr ⟨_, o.module.text, [], [], rfl, rfl, ?_,
    reads_many1.mpr ⟨o.module.ne_nil, o.module.all, rfl⟩⟩
  exact reads_append.mpr ⟨"from".toList, o.gap.text, [], [], rfl, rfl, .literal,
    reads_many1.mpr ⟨o.gap.ne_nil, o.gap.all, rfl⟩⟩

theorem exists_origin_of_reads {run : Text} {gs : List Text} (h : fromClause.Reads pre run rest gs) :
    ∃ o : Origin, run = o.text := by
  obtain ⟨_, g', _, _, rfl, -, h, hgap'⟩ := reads_append.mp h
  obtain ⟨_, m, _, _, rfl, -, h, hmodule⟩ := reads_append.mp h
  obtain ⟨_, g, _, _, rfl, -, hword, hgap⟩ := reads_append.mp h
  obtain ⟨hne, hall, -⟩ := reads_many1.mp hgap
  obtain ⟨hne', hall', -⟩ := reads_many1.mp hgap'
  obtain ⟨hmodule_ne, hmodule_all, -⟩ := reads_many1.mp hmodule
  obtain ⟨rfl, -⟩ := reads_word.mp hword
  exact ⟨⟨⟨⟨g, hall⟩, hne⟩, ⟨⟨m, hmodule_all⟩, hmodule_ne⟩, ⟨⟨g', hall'⟩, hne'⟩⟩, rfl⟩

/-- A text starts with only one clause before `import`. -/
theorem Origin.eq_of_append {o o' : Origin}
    (h : o.text ++ ("import".toList ++ t) = o'.text ++ ("import".toList ++ u)) : t = u := by
  have path : ∀ (o : Origin) x, ∀ e ∈ (o.module.text ++ x).head?, ¬ isIndent e :=
    fun o x e he hindent => not_isPathChar_of_isIndent hindent (o.module.head e he)
  have blank : ∀ (o : Origin) x, ∀ e ∈ (o.gap'.text ++ x).head?, ¬ isPathChar e :=
    fun o x e he => not_isPathChar_of_isIndent (o.gap'.head e he)
  have word : ∀ x : Text, ∀ e ∈ ("import".toList ++ x).head?, ¬ isIndent e := by
    simp
    decide
  have cut : o.gap.text ++ (o.module.text ++ (o.gap'.text ++ ("import".toList ++ t))) =
      o'.gap.text ++ (o'.module.text ++ (o'.gap'.text ++ ("import".toList ++ u))) := by
    rw [o.text_append, o'.text_append] at h
    exact List.append_cancel_left h
  obtain ⟨-, cut⟩ := eq_of_run cut o.gap.all o'.gap.all (path o _) (path o' _)
  obtain ⟨-, cut⟩ := eq_of_run cut o.module.all o'.module.all (blank o _) (blank o' _)
  obtain ⟨-, cut⟩ := eq_of_run cut o.gap'.all o'.gap'.all (word t) (word u)
  exact List.append_cancel_left cut

/-- Where a line starts, a star import is read exactly if a name follows the star. -/
theorem starts_star (l : StarLine) (hpre : StartsLine pre) :
    statement.Starts pre (l.opening ++ (l.gap.text ++ '*' :: t)) ↔ NameFollows t := by
  have bracket : ∀ u, statement.Starts pre u ↔ (lineStart ++ (many isIndent ++
      (Pattern.optional fromClause ++ (word "import" ++ nameList)))).Starts pre u :=
    fun _ => starts_iff_of_matchHere rfl
  have origin : ∀ x : Text, ∀ e ∈ (l.origin.text ++ x).head?, ¬ isIndent e := by
    intro x e he
    rw [l.origin.head e he]
    decide
  rw [bracket, StarLine.opening, List.append_assoc, List.append_assoc]
  constructor
  · intro hstarts
    obtain ⟨_, _, _, hsplit, hstart, hstarts⟩ := starts_append.mp hstarts
    obtain ⟨rfl, -⟩ := reads_lineStart.mp hstart
    obtain ⟨indent, _, _, rfl, hindent, hstarts⟩ := starts_append.mp hstarts
    obtain ⟨clause, _, _, rfl, hclause, hstarts⟩ := starts_append.mp hstarts
    obtain ⟨_, v, _, rfl, hword, hlist⟩ := starts_append.mp hstarts
    obtain ⟨rfl, -⟩ := reads_word.mp hword
    have indented := (reads_many.mp hindent).1
    rw [List.nil_append] at hsplit
    rcases reads_optional.mp hclause with hclause | ⟨rfl, -⟩
    · obtain ⟨o, rfl⟩ := exists_origin_of_reads hclause
      have head : ∀ e ∈ (o.text ++ ("import".toList ++ v)).head?, ¬ isIndent e := by
        intro e he
        rw [o.head e he]
        decide
      obtain ⟨-, cut⟩ := eq_of_run hsplit l.indent.all indented (origin _) head
      obtain rfl := Origin.eq_of_append cut
      exact (starts_nameList l.gap).mp hlist
    · -- without a clause the keyword would stand in place of `from`
      have head : ∀ e ∈ ([] ++ ("import".toList ++ v)).head?, ¬ isIndent e := by
        simp
        decide
      obtain ⟨-, cut⟩ := eq_of_run hsplit l.indent.all indented (origin _) head
      rw [l.origin.text_append] at cut
      simp at cut
  · intro hname
    refine starts_append.mpr ⟨[], _, [], rfl, .lineStart hpre, ?_⟩
    refine starts_append.mpr ⟨l.indent.text, _, [], rfl, .many l.indent.all, ?_⟩
    refine starts_append.mpr ⟨l.origin.text, _, [], rfl,
      reads_optional.mpr (.inl l.origin.reads_text), ?_⟩
    exact starts_append.mpr ⟨"import".toList, _, [], rfl, .literal, (starts_nameList l.gap).mpr hname⟩

/-! ## Lines with a statement -/

/-- Two places of a text that start lines are the same if as many newlines precede them. -/
theorem eq_of_startsLine (h : x ++ t = y ++ u) (hx : StartsLine x) (hy : StartsLine y)
    (hcount : x.count '\n' = y.count '\n') : x = y ∧ t = u := by
  rcases List.append_eq_append_iff.mp h with ⟨w, rfl, rfl⟩ | ⟨w, rfl, rfl⟩
  · by_cases hw : w = []
    · simp [hw]
    · have := count_lt_of_startsLine hw hy
      omega
  · by_cases hw : w = []
    · simp [hw]
    · have := count_lt_of_startsLine hw hx
      omega

/-- A line has a statement exactly if one can be read where it starts. -/
theorem mem_statementLines_iff_starts (hlanguage : d.language = "python") (htext : d.text = before ++ t)
    (hbefore : StartsLine before) :
    before.count '\n' ∈ (Analysis.ofDocument d).statementLines ↔ statement.Starts before t := by
  rw [ofDocument_eq_of_python hlanguage, Analysis.mem_statementLines]
  constructor
  · rintro ⟨s, hs, -, hline⟩
    obtain ⟨m, hm, rfl⟩ := List.mem_map.mp hs
    obtain ⟨x, rest, hsplit, hstart, hreads⟩ := exists_reads_of_mem_found hm
    have hcount : x.count '\n' = before.count '\n' := by
      rw [← hline, ← Document.lineOfOffset_length hsplit, ← hstart]
    obtain ⟨rfl, rfl⟩ := eq_of_startsLine (hsplit.symm.trans htext) (startsLine_of_reads hreads) hbefore
      hcount
    exact ⟨m.text, rest, m.groups, rfl, hreads⟩
  · intro hstarts
    obtain ⟨m, hhere⟩ := hstarts.exists_matchHere before.length
    obtain ⟨rest, rfl, hreads, hstart⟩ := reads_of_matchHere hhere
    have hne : m.text ≠ [] := by
      intro hnil
      have word : "import".toList <:+: m.text := hreads.infix_of_demands (by decide)
      simp [hnil] at word
    have found : m ∈ statement.found d.text := by
      rw [htext]
      exact mem_found_of_exposed (not_covered_of_startsLine readsOnly_statement hbefore) hne hhere
    refine ⟨statementOf d m, List.mem_map_of_mem found, rfl, ?_⟩
    show d.lineOfOffset m.start = _
    rw [hstart]
    exact Document.lineOfOffset_length htext

/-- A line with a star import, among whatever other lines, has a statement exactly if a name follows the
star. Blanks and a comment are none. -/
theorem star_statementLine_iff (l : StarLine) (hlanguage : d.language = "python")
    (hline : d.lines[i]? = some l.text) :
    (i ∈ (Analysis.ofDocument d).statementLines ↔ NameFollows l.behind) ∧
      (OnlyRemark l.behind → i ∉ (Analysis.ofDocument d).statementLines) := by
  obtain ⟨before, ending, behind, htext, rfl, hbefore, -, hending, hbehind⟩ :=
    Document.exists_of_getElem?_lines hline
  have split : d.text = before ++ (l.opening ++ (l.gap.text ++ '*' :: (l.behind ++ (ending ++ behind)))) := by
    rw [htext, StarLine.text]
    simp
  have ends : ∀ e ∈ (ending ++ behind).head?, e = '\r' ∨ e = '\n' := by
    intro e he
    rcases hending with rfl | rfl
    · exact .inr (hbehind e he)
    · exact .inl (by simpa using he.symm)
  have hiff : before.count '\n' ∈ (Analysis.ofDocument d).statementLines ↔ NameFollows l.behind := by
    rw [mem_statementLines_iff_starts hlanguage split hbefore, starts_star l hbefore,
      nameFollows_append ends]
  exact ⟨hiff, fun hremark hmem => hremark.not_nameFollows (hiff.mp hmem)⟩

/-- `from os import *`, indented by a tab, and what follows. -/
def osStar (behind : Text) : StarLine where
  indent := (Run1.single '\t').toRun
  origin := ⟨.of [' '], .of "os".toList, .of [' ']⟩
  gap := .of [' ']
  behind := behind

/-- With a comment behind it the star is no statement, with another name it is. -/
theorem star_statementLine_name :
    let d : Document :=
      { text := "\tfrom os import * # all\n\tfrom os import *, path".toList, language := "python" }
    0 ∉ (Analysis.ofDocument d).statementLines ∧ 1 ∈ (Analysis.ofDocument d).statementLines := by
  intro d
  have remark : OnlyRemark " # all".toList := ⟨.of [' '], "# all".toList, rfl, by simp⟩
  have name : NameFollows ", path".toList :=
    ⟨[',', ' '], 'p', "ath".toList, rfl, .list (by simp; decide), by decide⟩
  have first : d.lines[0]? = some (osStar " # all".toList).text := by decide +kernel
  have second : d.lines[1]? = some (osStar ", path".toList).text := by decide +kernel
  exact ⟨(star_statementLine_iff _ rfl first).2 remark, (star_statementLine_iff _ rfl second).1.mpr name⟩

/-- Whether every star import of a document is on a line with a statement. -/
def FlagsStarImports (d : Document) : Prop :=
  ∀ (i : Nat) (l : StarLine), OnlyRemark l.behind → d.lines[i]? = some l.text →
    i ∈ (Analysis.ofDocument d).statementLines

/-- A document of one star import has no statement. -/
theorem not_flagsStarImports :
    let d : Document := { text := "\tfrom os import *".toList, language := "python" }
    d.lines = [(osStar []).text] ∧ (Analysis.ofDocument d).statementLines = [] ∧ ¬ FlagsStarImports d := by
  intro d
  have hlines : d.lines = [(osStar []).text] := by decide +kernel
  have none : (Analysis.ofDocument d).statementLines = [] := by decide +kernel
  refine ⟨hlines, none, fun h => ?_⟩
  have remark : OnlyRemark [] := ⟨.of [], [], rfl, by simp⟩
  have flagged := h 0 (osStar []) remark (by simp [hlines])
  simp [none] at flagged

end Kudos.Python
