import Mathlib
import Kudos.Analysis
import Kudos.Proofs.Document.Lines
import Kudos.Proofs.Statement.ScriptRequire

/-!
# Hidden script statements

Both script patterns are searched in the whole text, so a statement of one line may be hidden by an
earlier one of the same form that runs past its place: a `require` statement runs up to the next
semicolon. A statement that is not hidden is found in the document as on its line alone
(`mem_lines_or_hidden`). What its pattern matches in the document can go on behind the line, but
only with a text that does not change whether the specifier is local, as long as its quotation marks
enclose something.
-/

namespace Kudos.Script

open Text Pattern

variable {pre pre' rest rest' t x x' y z line after : Text} {c mark mark' : Char} {n n' : Nat}

/-! ## Specifiers with more text behind them -/

/-- No quotation mark follows on the same line. -/
def Unquoted (z : Text) : Prop :=
  ∀ u c v, z = u ++ c :: v → (∀ e ∈ u, isInline e) → ¬ isQuote c

theorem Unquoted.mono (h : Unquoted z) (hy : y <+: z) : Unquoted y := by
  rintro u c v rfl hu
  obtain ⟨w, rfl⟩ := hy
  exact h u c (v ++ w) (by simp) hu

theorem Unquoted.append (hx : Unquoted x) (hnl : '\n' ∉ x) (hy : Unquoted y) : Unquoted (x ++ y) := by
  intro u c v huv hu hc
  rcases List.append_eq_append_iff.mp huv with ⟨w, rfl, rfl⟩ | ⟨w, rfl, hw⟩
  · exact hy w c v rfl (fun e he => hu e (List.mem_append_right _ he)) hc
  · cases w with
    | nil => exact hy [] c v hw.symm (by simp) hc
    | cons d w =>
      obtain ⟨rfl, -⟩ := List.cons.inj hw
      exact hx u c w rfl hu hc

/-- Text behind a visible character other than a dot does not change whether a specifier is local. -/
theorem isLocal_append (hc : ¬ isBlank c) (hdot : c ≠ '.') (x y : Text) :
    isLocal (x ++ [c] ++ y) = isLocal (x ++ [c]) := by
  obtain ⟨u, v, hx, hxy, -⟩ := exists_trim_append hc x y
  unfold isLocal
  simp only [hx, hxy, startsWith]
  rcases u with _ | ⟨d, _ | ⟨d', u⟩⟩
  · simp [List.isPrefixOf, hdot.symm]
  · simp [List.isPrefixOf]
  · simp [List.isPrefixOf]

theorem isLocal_mono (hy : isLocal y) (h : y <+: z) : isLocal z := by
  have hslash : '/' ∈ y := by
    refine mem_of_mem_trim ?_
    unfold isLocal startsWith at hy
    rcases Bool.or_eq_true _ _ |>.mp hy with hy | hy
    · exact (List.isPrefixOf_iff_prefix.mp hy).subset (by simp)
    · exact (List.isPrefixOf_iff_prefix.mp hy).subset (by simp)
  obtain ⟨u, v, rfl⟩ := List.append_of_mem hslash
  obtain ⟨w, rfl⟩ := h
  have hblank : ¬ isBlank '/' := by decide
  have alone := isLocal_append hblank (by decide) u v
  have longer := isLocal_append hblank (by decide) u (v ++ w)
  rw [List.append_assoc, List.singleton_append] at alone
  rw [List.append_assoc, List.singleton_append] at longer
  rw [List.append_assoc, List.cons_append, longer, ← alone]
  exact hy

theorem starts_marked : (char mark ++ group (few isInline) ++ char mark).Starts pre t ↔
    ∃ y rest, (∀ e ∈ y, isInline e) ∧ t = mark :: (y ++ mark :: rest) := by
  constructor
  · rintro ⟨run, rest, gs, rfl, h⟩
    obtain ⟨_, _, _, _, rfl, -, h, hlast⟩ := reads_append.mp h
    obtain ⟨_, y, _, _, rfl, -, hfirst, hy⟩ := reads_append.mp h
    obtain ⟨rfl, -⟩ := reads_char.mp hfirst
    obtain ⟨rfl, -⟩ := reads_char.mp hlast
    obtain ⟨_, -, hy⟩ := reads_group.mp hy
    exact ⟨y, rest, (reads_few.mp hy).1, by simp⟩
  · rintro ⟨y, rest, hy, rfl⟩
    have first : ∀ rest, (char mark).Reads pre [mark] rest [] := fun _ => reads_char.mpr ⟨rfl, rfl⟩
    have inner : ∀ rest, (group (few isInline)).Reads (pre ++ [mark]) y rest ([] ++ [y]) :=
      fun _ => .group (.few hy)
    exact ⟨[mark] ++ y ++ [mark], rest, _, by simp,
      .andThen (.andThen (first _) (inner _)) (reads_char.mpr ⟨rfl, rfl⟩)⟩

/-- A quoted text starts with a mark that stands again on its line. -/
theorem starts_quoted : quoted.Starts pre t ↔ ∃ mark y rest, isQuote mark ∧
    (∀ e ∈ y, isInline e) ∧ t = mark :: (y ++ mark :: rest) := by
  constructor
  · rintro ⟨run, rest, gs, rfl, h⟩
    rcases reads_orElse.mp h with h | h
    · obtain ⟨y, u, hy, hsplit⟩ := starts_marked.mp ⟨run, rest, gs, rfl, h⟩
      exact ⟨'\'', y, u, by decide, hy, hsplit⟩
    · obtain ⟨y, u, hy, hsplit⟩ := starts_marked.mp ⟨run, rest, gs, rfl, h⟩
      exact ⟨'"', y, u, by decide, hy, hsplit⟩
  · rintro ⟨mark, y, rest, hmark, hy, rfl⟩
    have marked : (char mark ++ group (few isInline) ++ char mark).Starts pre
        (mark :: (y ++ mark :: rest)) := starts_marked.mpr ⟨y, rest, hy, rfl⟩
    obtain ⟨run, u, gs, hsplit, h⟩ := marked
    rcases Bool.or_eq_true _ _ |>.mp hmark with hm | hm
    · obtain rfl : mark = '\'' := by simpa using hm
      exact ⟨run, u, gs, hsplit, .left h⟩
    · obtain rfl : mark = '"' := by simpa using hm
      exact ⟨run, u, gs, hsplit, .right h⟩

theorem matchStart_quoted_eq_none : quoted.matchStart t = none ↔ ¬ quoted.Starts [] t := by
  have here : quoted.matchHere ([] : Text).getLast? t 0 = none ↔ ¬ quoted.Starts [] t :=
    matchHere_eq_none
  exact here

/-- Without quotation marks a specifier is read as it stands. -/
theorem specifier_of_unquoted (h : ∀ e ∈ t, ¬ isQuote e) : specifier t = t := by
  have none : quoted.matchStart t = none := by
    refine matchStart_quoted_eq_none.mpr fun hstarts => ?_
    obtain ⟨mark, y, rest, hmark, -, rfl⟩ := starts_quoted.mp hstarts
    exact h mark (by simp) hmark
  rw [specifier, none]
  cases t with
  | nil => rfl
  | cons c t => exact List.dropWhile_cons_of_neg (h c (by simp))

/-- No quoted text comes to be by more text behind a line without one. -/
theorem not_starts_quoted_append (hz : Unquoted z) (h : ¬ quoted.Starts [] (x ++ [mark])) :
    ¬ quoted.Starts [] (x ++ [mark] ++ z) := by
  intro hstarts
  obtain ⟨q, y, rest, hq, hy, hsplit⟩ := starts_quoted.mp hstarts
  have cut : x ++ [mark] ++ z = (q :: y) ++ q :: rest := by simpa using hsplit
  have hinline : ∀ e ∈ q :: y, isInline e := by
    intro e he
    rcases List.mem_cons.mp he with rfl | he
    · exact isInline_of_isQuote hq
    · exact hy e he
  rcases List.append_eq_append_iff.mp cut with ⟨w, hw, rfl⟩ | ⟨w, hw, hrest⟩
  · refine hz w q rest rfl (fun e he => hinline e ?_) hq
    rw [hw]
    exact List.mem_append_right _ he
  · cases w with
    | nil => exact hz [] q rest hrest.symm (by simp) hq
    | cons d w =>
      obtain ⟨rfl, -⟩ := List.cons.inj hrest
      exact h (starts_quoted.mpr ⟨q, y, w, hq, hy, by simpa using hw⟩)

/-- Where the first mark is closed on the line, the specifier ends there. -/
theorem specifier_append_of_quoted (hmark : isQuote mark) (hx : ∀ e ∈ x, isInline e)
    (h : quoted.Starts [] (x ++ [mark])) (z : Text) :
    specifier (x ++ [mark] ++ z) = specifier (x ++ [mark]) := by
  obtain ⟨q, y, rest, hq, -, hsplit⟩ := starts_quoted.mp h
  obtain ⟨u, d, v, hfirst, hu, hd⟩ := exists_first (p := (· == q))
    ⟨q, (by simp : q ∈ y ++ q :: rest), by simp⟩
  obtain rfl : d = q := by simpa using hd
  rw [hfirst] at hsplit
  have hinline : ∀ e ∈ u, isInline e := by
    intro e he
    have hmem : e ∈ x ++ [mark] := by simp [hsplit, he]
    rcases List.mem_append.mp hmem with hmem | hmem
    · exact hx e hmem
    · rw [List.mem_singleton.mp hmem]
      exact isInline_of_isQuote hmark
  have hnone : d ∉ u := fun hmem => hu d hmem (by simp)
  have longer : d :: (u ++ d :: v) ++ z = d :: (u ++ d :: (v ++ z)) := by simp
  rw [hsplit, longer, specifier_of_closed hq hinline hnone, specifier_of_closed hq hinline hnone]

/-- Behind the marks at its start a text goes on as a local specifier or not, whatever follows its last
mark, unless nothing is left of it. -/
theorem isLocal_dropWhile_append (hmark : isQuote mark) (hz : Unquoted z)
    (hmatched : ¬ ((x ++ [mark]).dropWhile isQuote = [] ∧ isLocal z)) :
    isLocal ((x ++ [mark] ++ z).dropWhile isQuote) = isLocal ((x ++ [mark]).dropWhile isQuote) := by
  obtain ⟨marks, u, hsplit, hmarks, hu⟩ := exists_run isQuote (x ++ [mark])
  have dropped : ∀ z, (∀ e ∈ (u ++ z).head?, ¬ isQuote e) →
      (x ++ [mark] ++ z).dropWhile isQuote = u ++ z := by
    intro z hz
    rw [hsplit, List.append_assoc, List.dropWhile_append_of_pos hmarks]
    cases hhead : u ++ z with
    | nil => rfl
    | cons d t => exact List.dropWhile_cons_of_neg (hz d (by simp [hhead]))
  have alone := dropped [] (by simpa using hu)
  rw [List.append_nil, List.append_nil] at alone
  rw [alone] at hmatched ⊢
  rcases List.eq_nil_or_concat u with rfl | ⟨u, d, rfl⟩
  · have head : ∀ e ∈ ([] ++ z).head?, ¬ isQuote e := by
      intro e he
      obtain ⟨v, hv⟩ := List.head?_eq_some_iff.mp he
      exact hz [] e v hv (by simp)
    have nonlocal : isLocal z = false := by simpa using hmatched
    rw [dropped z head, List.nil_append, nonlocal]
    rfl
  · rw [List.concat_eq_append] at *
    obtain rfl : mark = d := by
      rw [← List.append_assoc] at hsplit
      simpa using List.append_inj_right' hsplit rfl
    have hdot : mark ≠ '.' := by
      rintro rfl
      exact absurd hmark (by decide)
    rw [dropped z, isLocal_append (isQuote_not_isBlank hmark) hdot]
    intro e he
    refine hu e ?_
    cases u with
    | nil => simpa using he
    | cons d u => simpa using he

/-- Behind the last quotation mark of a line a specifier may go on without a change in whether it is
local, unless it is nothing but unmatched marks and a local one follows. -/
theorem isLocal_specifier_append (hmark : isQuote mark) (hx : ∀ e ∈ x, isInline e) (hz : Unquoted z)
    (hmatched : ¬ (specifier (x ++ [mark]) = [] ∧ quoted.matchStart (x ++ [mark]) = none ∧
      isLocal z)) :
    isLocal (specifier (x ++ [mark] ++ z)) = isLocal (specifier (x ++ [mark])) := by
  by_cases hquoted : quoted.Starts [] (x ++ [mark])
  · rw [specifier_append_of_quoted hmark hx hquoted]
  · have absent : quoted.matchStart (x ++ [mark]) = none := matchStart_quoted_eq_none.mpr hquoted
    have absent' : quoted.matchStart (x ++ [mark] ++ z) = none :=
      matchStart_quoted_eq_none.mpr (not_starts_quoted_append hz hquoted)
    simp only [specifier, absent, absent'] at hmatched ⊢
    exact isLocal_dropWhile_append hmark hz (by simpa using hmatched)

/-! ## Matches that go on behind a line -/

/-- The text that the specifier of an `import` statement is read off. -/
def specifierTail (t : Text) : Text :=
  trim ((fromKeyword.pieces t).getD 1 [])

theorem snd_splitImport (t : Text) : (splitImport t).2 = specifier (specifierTail t) := rfl

/-- Text behind the closing mark of a match only goes on with the tail of the match, if the tail
reaches up to the mark. -/
theorem exists_specifierTail_append (hmark : isQuote mark) (z : Text)
    (hfrom : ∃ u v, x ++ [mark] = u ++ v ∧ (spaced "from".toList).Starts u v) :
    ∃ y, y <+: z ∧ specifierTail (x ++ [mark] ++ z) = specifierTail (x ++ [mark]) ++ y ∧
      (y ≠ [] → ∃ u, specifierTail (x ++ [mark]) = u ++ [mark] ∧ ∀ e ∈ u, e ∈ x ++ [mark]) := by
  have hblank := isQuote_not_isBlank hmark
  have hword : mark ∉ "from".toList := by
    intro hmem
    have hname := isNameChar_of_mem_from mark hmem
    exact (not_mark_of_isClauseChar (isClauseChar_of_isNameChar hname)).1 hmark
  have visible : ∀ e ∈ "from".toList, ¬ isBlank e :=
    fun e he => not_isBlank_of_isNameChar (isNameChar_of_mem_from e he)
  rcases quiet_or_exists_spaced "from".toList [] (x ++ [mark]) with
    quiet | ⟨a, gap, gap', b, hsplit, quiet, hne, hne', hgap, hgap', hb⟩
  · obtain ⟨u, v, huv, hstarts⟩ := hfrom
    have hv : v ≠ [] := by
      rintro rfl
      obtain ⟨gap, _, _, hne, -, -, -, hsplit⟩ := starts_spaced.mp hstarts
      exact hne (List.append_eq_nil_iff.mp hsplit.symm).1
    exact absurd (by simpa using hstarts) (quiet u v huv hv)
  · have hlast : x ++ [mark] = (a ++ gap ++ "from".toList) ++ gap' ++ b := by rw [hsplit]; simp
    obtain ⟨b, rfl⟩ := exists_eq_append_mark hblank hne' hgap' hlast
    have head : ∀ e ∈ ("from".toList ++ gap').head?, ¬ isBlank e := by
      simp
      decide
    have tails : ∀ z, specifierTail (x ++ [mark] ++ z) =
        trim (((spaced "from".toList).piecesBehind ([] ++ a ++ (gap ++ "from".toList ++ gap'))
          (b ++ [mark] ++ z)).headD []) := by
      intro z
      have cut := piecesBehind_append_mark head hblank hword hne hne' hgap hgap' hb quiet z
      have split : x ++ [mark] ++ z = a ++ (gap ++ "from".toList ++ gap' ++ (b ++ [mark] ++ z)) := by
        rw [hsplit]
        simp
      have pieces : fromKeyword.pieces (x ++ [mark] ++ z) = (spaced "from".toList).piecesBehind []
          (a ++ (gap ++ "from".toList ++ gap' ++ (b ++ [mark] ++ z))) := by
        rw [split]
        rfl
      rw [specifierTail, pieces, cut, List.getD_cons_succ]
      cases (spaced "from".toList).piecesBehind ([] ++ a ++ (gap ++ "from".toList ++ gap'))
        (b ++ [mark] ++ z) <;> rfl
    have alone := tails []
    rw [List.append_nil, List.append_nil] at alone
    obtain ⟨y, hy, hhead, hwhole⟩ := exists_headD_piecesBehind_append (x := b) (by simp) visible
      hblank hword z
    rw [alone, tails z, hhead]
    by_cases hempty : y = []
    · exact ⟨[], List.nil_prefix, by rw [hempty, List.append_nil, List.append_nil], by simp⟩
    · obtain ⟨u, v, htrim, htrim', hv⟩ := exists_trim_append hblank b y
      rw [hwhole hempty, htrim, htrim']
      refine ⟨v, hv.trans hy, rfl, fun _ => ⟨u, rfl, fun e he => ?_⟩⟩
      have hmem : e ∈ b ++ [mark] := mem_of_mem_trim (by rw [htrim]; exact List.mem_append_left _ he)
      rw [hsplit]
      exact List.mem_append_right _ (List.mem_append_right _ hmem)

/-- The quotation marks in a statement neither match nor enclose a specifier. -/
def Unmatched (t : Text) : Prop :=
  (splitImport t).2 = [] ∧ quoted.matchStart (specifierTail t) = none

/-- A match that goes on behind its line without another quotation mark there is local or not as on
the line alone, unless its marks are unmatched and a local specifier follows. -/
theorem isLocal_splitImport_append (hmark : isQuote mark) (hx : ∀ e ∈ x, isInline e) (hz : Unquoted z)
    (hfrom : ∃ u v, x ++ [mark] = u ++ v ∧ (spaced "from".toList).Starts u v)
    (hmatched : ¬ (Unmatched (x ++ [mark]) ∧ isLocal z)) :
    isLocal (splitImport (x ++ [mark] ++ z)).2 = isLocal (splitImport (x ++ [mark])).2 := by
  obtain ⟨y, hy, htail, hwhole⟩ := exists_specifierTail_append hmark z hfrom
  rw [Unmatched, snd_splitImport] at hmatched
  rw [snd_splitImport, snd_splitImport, htail]
  by_cases hempty : y = []
  · rw [hempty, List.append_nil]
  · obtain ⟨u, hu, hmem⟩ := hwhole hempty
    rw [hu] at hmatched ⊢
    refine isLocal_specifier_append hmark (fun e he => ?_) (hz.mono hy) fun h => ?_
    · rcases List.mem_append.mp (hmem e he) with hmem | hmem
      · exact hx e hmem
      · rw [List.mem_singleton.mp hmem]
        exact isInline_of_isQuote hmark
    · obtain ⟨hnone, habsent, hlocal⟩ := h
      exact hmatched ⟨⟨hnone, habsent⟩, isLocal_mono hlocal hy⟩

/-! ## Matches of the `import` pattern -/

/-- The pattern up to the opening quotation mark. -/
def importOpening : Pattern :=
  lineStart ++ word "import" ++ many1 isBlank ++ many isInline ++ many1 isBlank ++ word "from" ++
    many1 isBlank ++ one isQuote

theorem exists_of_reads_opening {run : Text} {gs : List Text} (h : importOpening.Reads pre run rest gs)
    (z : Text) : ∃ u v, run ++ z = u ++ v ∧ (spaced "from".toList).Starts u v := by
  obtain ⟨_, q, _, _, rfl, -, h, -⟩ := reads_append.mp h
  obtain ⟨_, gap', _, _, rfl, -, h, hgap'⟩ := reads_append.mp h
  obtain ⟨_, _, _, _, rfl, -, h, hword⟩ := reads_append.mp h
  obtain ⟨u, gap, _, _, rfl, -, -, hgap⟩ := reads_append.mp h
  obtain ⟨hne, hblank, -⟩ := reads_many1.mp hgap
  obtain ⟨hne', hblank', -⟩ := reads_many1.mp hgap'
  obtain ⟨rfl, -⟩ := reads_word.mp hword
  refine ⟨u, gap ++ ("from".toList ++ (gap' ++ (q ++ z))), by simp, ?_⟩
  exact starts_spaced.mpr ⟨gap, gap', q ++ z, hne, hne', hblank, hblank', rfl⟩

/-- A match ends with the last quotation mark of a line, and a separate `from` stands in it. -/
theorem exists_of_matchHere_import {m : Match}
    (h : importStatement.matchHere pre.getLast? t n = some m) :
    ∃ x mark rest, isQuote mark ∧ m.text = x ++ [mark] ∧ t = x ++ [mark] ++ rest ∧ Unquoted rest ∧
      ∃ u v, x ++ [mark] = u ++ v ∧ (spaced "from".toList).Starts u v := by
  obtain ⟨d, hd, rfl⟩ := Option.map_eq_some_iff.mp h
  have search : importOpening.tryWith (.behind pre t []) (fun d => (many isInline).tryWith d fun e =>
      (one isQuote).tryWith e some) = some d := hd
  obtain ⟨run, _, gs, rfl, hopening, hmany⟩ := exists_reads_of_tryWith search
  obtain ⟨v, _, rfl, -, hone, hmax⟩ := runLongest_eq_some.mp hmany
  obtain ⟨_, rest, _, rfl, hlast, hd⟩ := exists_reads_of_tryWith hone
  obtain ⟨mark, hmark, rfl, -⟩ := reads_one.mp hlast
  obtain rfl := Option.some.inj hd
  have covered : ∀ hs, (Cursor.upTo ⟨pre.getLast?, run ++ (v ++ ([mark] ++ rest)), []⟩
      (.behind (pre ++ run ++ v ++ [mark]) rest hs)) = run ++ v ++ [mark] := by
    intro hs
    have whole : run ++ (v ++ ([mark] ++ rest)) = (run ++ v ++ [mark]) ++ rest := by simp
    have behind : pre ++ run ++ v ++ [mark] = pre ++ (run ++ v ++ [mark]) := by simp
    rw [whole, behind]
    exact upTo_behind
  refine ⟨run ++ v, mark, rest, hmark, covered _, by simp, ?_, ?_⟩
  · rintro u c w rfl hu hc
    have inline : ∀ e ∈ mark :: u, isInline e := by
      intro e he
      rcases List.mem_cons.mp he with rfl | he
      · exact isInline_of_isQuote hmark
      · exact hu e he
    have refused := hmax (mark :: u) (c :: w) (by simp) (by simp) inline
    simp [tryWith_one_cons, Cursor.behind, hc] at refused
  · have := exists_of_reads_opening hopening (v ++ [mark])
    rwa [← List.append_assoc] at this

theorem edgeFree_importBody : importBody.EdgeFree :=
  ⟨trivial, ⟨trivial, trivial⟩, trivial, ⟨⟨⟨trivial, trivial⟩, trivial⟩, trivial, trivial⟩, trivial,
    trivial, trivial⟩

/-- Of two cuts of a text behind the last quotation mark, that of the longer line is not before that of
the shorter one, and no mark stands between them. -/
theorem exists_eq_append_of_last_mark (hmark : isQuote mark) (hx : ∀ e ∈ x ++ [mark] ++ rest, isInline e)
    (hrest : Unquoted rest) (hafter : Unquoted after) (hrest' : Unquoted rest')
    (h : x ++ [mark] ++ (rest ++ after) = x' ++ [mark'] ++ rest') :
    ∃ z, x' ++ [mark'] = x ++ [mark] ++ z ∧ Unquoted z ∧ z <+: rest ++ after := by
  rcases List.append_eq_append_iff.mp h with ⟨z, hz, hbehind⟩ | ⟨w, hw, hbehind⟩
  · have hnone : '\n' ∉ rest := by
      intro hmem
      have := hx '\n' (List.mem_append_right _ hmem)
      simp [isInline] at this
    have hpre : z <+: rest ++ after := ⟨rest', hbehind.symm⟩
    exact ⟨z, hz, (hrest.append hnone hafter).mono hpre, hpre⟩
  · rcases List.eq_nil_or_concat w with rfl | ⟨w, d, rfl⟩
    · exact ⟨[], by simpa using hw.symm, fun u c v h => by simp at h, List.nil_prefix⟩
    · -- The mark of the shorter line would follow the cut of the longer one.
      rw [List.concat_eq_append, ← List.append_assoc] at hw
      obtain rfl : mark = d := by simpa using List.append_inj_right' hw rfl
      refine absurd hmark (hrest' w mark (rest ++ after) (by simpa using hbehind) fun e he => ?_)
      have hx' : x = x' ++ [mark'] ++ w := List.append_inj_left' hw rfl
      exact hx e (by simp [hx', he])

/-- What goes on behind the last quotation mark of a line up to another mark runs past the line. -/
theorem length_lt_of_prefix_mark (hrest : Unquoted rest) (hinline : ∀ e ∈ rest, isInline e)
    (hmark : isQuote mark) (hz : z ++ [mark] <+: rest ++ after) : rest.length < (z ++ [mark]).length := by
  by_contra hle
  obtain ⟨w, rfl⟩ := List.prefix_of_prefix_length_le hz (List.prefix_append rest after) (Nat.not_lt.mp hle)
  exact hrest z mark w (by simp) (fun e he => hinline e (by simp [he])) hmark

/-- The match of a line goes on behind the line without quotation marks, so its specifier is local or
not as on the line alone, unless its marks are unmatched and it runs past the line to a local one. -/
theorem isLocal_of_matchHere_append {m m' : Match} (hline : ∀ e ∈ line, isInline e)
    (hafter : Unquoted after) (h : importStatement.matchHere pre.getLast? line n = some m)
    (h' : importStatement.matchHere pre'.getLast? (line ++ after) n' = some m')
    (hmatched : ¬ (Unmatched m.text ∧ isLocal (splitImport m'.text).2 ∧ line.length < m'.text.length)) :
    isLocal (splitImport m'.text).2 = isLocal (splitImport m.text).2 := by
  obtain ⟨x, mark, rest, hmark, htext, rfl, hrest, hfrom⟩ := exists_of_matchHere_import h
  obtain ⟨x', mark', rest', hmark', htext', hsplit, hrest', -⟩ := exists_of_matchHere_import h'
  rw [List.append_assoc _ rest] at hsplit
  obtain ⟨z, hz, hunquoted, hbehind⟩ :=
    exists_eq_append_of_last_mark hmark hline hrest hafter hrest' hsplit
  rw [htext, htext', hz] at hmatched ⊢
  rcases List.eq_nil_or_concat z with rfl | ⟨z, d, rfl⟩
  · rw [List.append_nil]
  · rw [List.concat_eq_append] at *
    obtain rfl : mark' = d := by
      rw [← List.append_assoc] at hz
      simpa using List.append_inj_right' hz rfl
    have hlong := length_lt_of_prefix_mark hrest (fun e he => hline e (by simp [he])) hmark' hbehind
    by_contra hne
    have hunmatched : Unmatched (x ++ [mark]) ∧ isLocal (z ++ [mark']) := by
      by_contra hmatched
      exact hne (isLocal_splitImport_append hmark (fun e he => hline e (by simp [he])) hunquoted hfrom hmatched)
    refine hmatched ⟨hunmatched.1, ?_, ?_⟩
    · -- The specifier on the line alone is empty, so the other one differs from it by being local.
      have hnone : isLocal (splitImport (x ++ [mark])).2 = false := by rw [hunmatched.1.1]; rfl
      rw [hnone] at hne
      simpa using hne
    · simpa using hlong

/-- The match that a line alone has is part of the match at the same place of a document, unless an
earlier match covers the place. -/
theorem exists_import_of_exposed {before line after : Text} {m : Match} (hbefore : StartsLine before)
    (hnl : '\n' ∉ line) (hafter : Unquoted after) (hm : m ∈ importStatement.found line)
    (hexposed : ¬ Covered (importStatement.found (before ++ (line ++ after)))
      (before.length + m.start)) :
    ∃ m' ∈ importStatement.found (before ++ (line ++ after)), m'.start = before.length + m.start ∧
      (¬ (Unmatched m.text ∧ isLocal (splitImport m'.text).2 ∧
          before.length + line.length < m'.start + m'.text.length) →
        isLocal (splitImport m'.text).2 = isLocal (splitImport m.text).2) := by
  rw [found_eq_foundBehind] at hm
  obtain ⟨x, y, rfl, -, hstart, hhere⟩ := exists_of_mem_foundBehind hm
  rw [List.nil_append] at hstart hhere
  obtain ⟨hline, hbody⟩ := starts_import.mp (starts_of_matchHere hhere)
  -- The statement starts the line, since the line holds no newline.
  obtain rfl : x = [] := by
    by_contra hne
    have hline : StartsLine ([] ++ x) := hline
    exact hnl (List.mem_append_left _ (hline.newline_mem hne))
  rw [List.nil_append] at hnl hexposed ⊢
  rw [hstart, List.length_nil, Nat.add_zero] at hexposed ⊢
  have again : importStatement.Starts before (y ++ after) :=
    starts_import.mpr ⟨hbefore, hbody.of_edgeFree edgeFree_importBody⟩
  obtain ⟨m', hhere'⟩ := again.exists_matchHere before.length
  obtain ⟨x', mark', rest', -, htext', -⟩ := exists_of_matchHere_import hhere'
  obtain ⟨-, -, -, hstart'⟩ := reads_of_matchHere hhere'
  have inline : ∀ e ∈ y, isInline e := by
    intro e he
    have hne : e ≠ '\n' := by
      rintro rfl
      exact hnl he
    simpa [isInline] using hne
  refine ⟨m', mem_found_of_exposed hexposed (by simp [htext']) hhere', hstart', fun hmatched => ?_⟩
  refine isLocal_of_matchHere_append inline hafter hhere hhere' fun hmore => hmatched ?_
  obtain ⟨hmarks, hlocal, hlong⟩ := hmore
  exact ⟨hmarks, hlocal, by omega⟩

/-! ## Matches of the `require` pattern -/

/-- The pattern up to the opening quotation mark of the specifier. -/
def requireOpening : Pattern :=
  (word "const" <|> word "let") ++ many1 isBlank ++ Pattern.optional (char '\x7b') ++ many isBlank ++
    group (many1 isListChar) ++ many isBlank ++ Pattern.optional (char '\x7d') ++ many isBlank ++
    char '=' ++ many isBlank ++ word "require" ++ many isBlank ++ char '(' ++ many isBlank

theorem readsOnly_requireOpening : requireOpening.ReadsOnly fun c => ¬ isQuote c := by
  have list : ∀ c, isListChar c → ¬ isQuote c := fun _ hc => (not_mark_of_isListChar hc).1
  have blank : ∀ c, isBlank c → ¬ isQuote c := fun c hc => list c (isListChar_of_isBlank hc)
  have single : ∀ d, ¬ isQuote d → ∀ c, (c == d) = true → ¬ isQuote c := by
    intro d hd c hc
    rwa [eq_of_beq hc]
  have keyword : (word "const" <|> word "let").ReadsOnly fun c => ¬ isQuote c :=
    ⟨fun c hc => list c (isListChar_of_isWord (keyword_visible (.inl rfl) c hc)),
      fun c hc => list c (isListChar_of_isWord (keyword_visible (.inr rfl) c hc))⟩
  have require : ∀ c ∈ "require".toList, ¬ isQuote c := by
    simpa using (by decide : isQuote 'r' = false ∧ isQuote 'e' = false ∧ isQuote 'q' = false ∧
      isQuote 'u' = false ∧ isQuote 'i' = false ∧ isQuote 'r' = false ∧ isQuote 'e' = false)
  have opening := readsOnly_optional (a := char '\x7b') (single '\x7b' (by decide))
  have closing := readsOnly_optional (a := char '\x7d') (single '\x7d' (by decide))
  exact ⟨⟨⟨⟨⟨⟨⟨⟨⟨⟨⟨⟨⟨keyword, blank, blank⟩, opening⟩, blank⟩, list, list⟩, blank⟩, closing⟩, blank⟩,
    single '=' (by decide)⟩, blank⟩, require⟩, blank⟩, single '(' (by decide)⟩, blank⟩

/-- The specifier of a match stands between its first two quotation marks. -/
theorem exists_of_reads_require {run : Text} {gs : List Text}
    (h : requireStatement.Reads pre run rest gs) :
    ∃ x mark y mark' z, run = x ++ mark :: (y ++ mark' :: z) ∧ (∀ e ∈ x, ¬ isQuote e) ∧
      isQuote mark ∧ (∀ e ∈ y, ¬ isQuote e) ∧ isQuote mark' ∧ gs.getD 1 [] = y := by
  have parts : (requireOpening ++ one isQuote ++ group (many1 fun c => !isQuote c) ++ one isQuote ++
      many isBlank ++ char ')' ++ many (· != ';') ++ char ';').Reads pre run rest gs := h
  obtain ⟨_, z₁, _, _, rfl, rfl, parts, -⟩ := reads_append.mp parts
  obtain ⟨_, z₂, _, _, rfl, rfl, parts, -⟩ := reads_append.mp parts
  obtain ⟨_, z₃, _, _, rfl, rfl, parts, -⟩ := reads_append.mp parts
  obtain ⟨_, z₄, _, _, rfl, rfl, parts, -⟩ := reads_append.mp parts
  obtain ⟨_, _, _, _, rfl, rfl, parts, hlast⟩ := reads_append.mp parts
  obtain ⟨_, y, _, _, rfl, rfl, parts, hy⟩ := reads_append.mp parts
  obtain ⟨x, _, list, _, rfl, rfl, hx, hfirst⟩ := reads_append.mp parts
  obtain ⟨mark', hmark', rfl, rfl⟩ := reads_one.mp hlast
  obtain ⟨mark, hmark, rfl, rfl⟩ := reads_one.mp hfirst
  obtain ⟨_, rfl, hspecifier⟩ := reads_group.mp hy
  obtain ⟨-, hunquoted, rfl⟩ := reads_many1.mp hspecifier
  have one : list.length = 1 := hx.length_groups rfl
  obtain ⟨names, rfl⟩ := List.length_eq_one_iff.mp one
  refine ⟨x, mark, y, mark', z₄ ++ z₃ ++ z₂ ++ z₁, by simp, hx.forall_mem readsOnly_requireOpening,
    hmark, by simpa using hunquoted, hmark', rfl⟩

theorem edgeFree_require : requireStatement.EdgeFree := by
  have parts : requireOpening.EdgeFree :=
    ⟨⟨⟨⟨⟨⟨⟨⟨⟨⟨⟨⟨⟨⟨trivial, trivial⟩, trivial, trivial⟩, trivial, trivial⟩, trivial⟩, trivial, trivial⟩,
      trivial⟩, trivial, trivial⟩, trivial⟩, trivial⟩, trivial⟩, trivial⟩, trivial⟩, trivial⟩, trivial⟩
  exact ⟨⟨⟨⟨⟨⟨⟨parts, trivial⟩, trivial, trivial⟩, trivial⟩, trivial⟩, trivial⟩, trivial⟩, trivial⟩

/-- The match that a line alone has stands at the same place of a document with the same specifier,
unless an earlier match covers the place. -/
theorem exists_require_of_exposed {before line after : Text} {m : Match}
    (hm : m ∈ requireStatement.found line)
    (hexposed : ¬ Covered (requireStatement.found (before ++ (line ++ after)))
      (before.length + m.start)) :
    ∃ m' ∈ requireStatement.found (before ++ (line ++ after)), m'.start = before.length + m.start ∧
      m'.groupText 1 = m.groupText 1 := by
  obtain ⟨x, r, rfl, hstart, hreads⟩ := exists_reads_of_mem_found hm
  have place : (before ++ x).length = before.length + m.start := by rw [List.length_append, hstart]
  have text : before ++ (x ++ (m.text ++ r) ++ after) = (before ++ x) ++ (m.text ++ r ++ after) := by
    simp
  rw [text, ← place] at hexposed ⊢
  have here : requireStatement.Starts x (m.text ++ r) := ⟨m.text, r, _, rfl, hreads⟩
  have again : requireStatement.Starts (before ++ x) (m.text ++ r ++ after) :=
    here.of_edgeFree edgeFree_require
  obtain ⟨m', hhere'⟩ := again.exists_matchHere (before ++ x).length
  obtain ⟨r', hsplit', hreads', hstart'⟩ := reads_of_matchHere hhere'
  obtain ⟨a, q, s, e, z, htext, ha, hq, hs, he, hgroup⟩ := exists_of_reads_require hreads
  obtain ⟨a', q', s', e', z', htext', ha', hq', hs', he', hgroup'⟩ := exists_of_reads_require hreads'
  -- Both specifiers stand between the first two quotation marks behind the place.
  have cut : a ++ q :: (s ++ e :: (z ++ r ++ after)) = a' ++ q' :: (s' ++ e' :: (z' ++ r')) := by
    have left : m.text ++ r ++ after = a ++ q :: (s ++ e :: (z ++ r ++ after)) := by rw [htext]; simp
    have right : m.text ++ r ++ after = a' ++ q' :: (s' ++ e' :: (z' ++ r')) := by
      rw [hsplit', htext']
      simp
    rw [← left, ← right]
  obtain ⟨-, -, hbehind⟩ := eq_of_first (p := isQuote) cut ha ha' hq hq'
  obtain ⟨rfl, -, -⟩ := eq_of_first (p := isQuote) hbehind hs hs' he he'
  refine ⟨m', mem_found_of_exposed hexposed (by simp [htext']) hhere', hstart', ?_⟩
  exact hgroup'.trans hgroup.symm

/-! ## Hidden statements of a document -/

section

variable {d : Document} {i : Nat} {before : Text} {s : Statement}

/-- Whether one of some statements starts before a place and runs past it. -/
def Hidden (ss : List Statement) (n : Nat) : Prop :=
  ∃ s ∈ ss, s.offset < n ∧ n < s.offset + s.text.length

instance {ss : List Statement} : Decidable (Hidden ss n) :=
  inferInstanceAs (Decidable (∃ s ∈ ss, s.offset < n ∧ n < s.offset + s.text.length))

theorem Hidden.of_covered_imports (h : Covered (importStatement.found d.text) n) :
    Hidden (imports d) n := by
  obtain ⟨m, hm, hstart, hstop⟩ := h
  exact ⟨_, List.mem_map_of_mem hm, hstart, hstop⟩

theorem Hidden.of_covered_requires (h : Covered (requireStatement.found d.text) n) :
    Hidden (requires d) n := by
  obtain ⟨m, hm, hstart, hstop⟩ := h
  exact ⟨_, List.mem_map_of_mem hm, hstart, hstop⟩

theorem recognize_subset (hs : s ∈ imports d ++ requires d) : s ∈ recognize d :=
  (List.mergeSort_perm _ _).mem_iff.mpr hs

theorem line_eq_zero (hnl : '\n' ∉ d.text) (hs : s ∈ recognize d) : s.line = 0 := by
  have first : ∀ n : Int, d.lineOfOffset n = 0 := by
    intro n
    rw [Document.lineOfOffset_eq_count, List.count_eq_zero]
    exact fun h => hnl (List.mem_of_mem_take h)
  rcases List.mem_append.mp ((List.mergeSort_perm _ _).mem_iff.mp hs) with hs | hs
  · obtain ⟨m, -, rfl⟩ := List.mem_map.mp hs
    exact first m.start
  · obtain ⟨m, -, rfl⟩ := List.mem_map.mp hs
    exact first m.start

/-- An `import` statement of a line that is not hidden in the document stands in it at the same place,
and names a library if it does so alone, unless its marks are unmatched and it runs past the line to a
local specifier. -/
theorem exists_import_of_not_hidden (htext : d.text = before ++ (line ++ after))
    (hbefore : StartsLine before) (hnl : '\n' ∉ line) (hafter : Unquoted after)
    {alone : Document} (halone : alone.text = line) (hs : s ∈ imports alone)
    (hexposed : ¬ Hidden (imports d) (before.length + s.offset)) :
    ∃ s' ∈ imports d, s'.offset = before.length + s.offset ∧ s'.line = before.count '\n' ∧
      (¬ (Unmatched s.text ∧ s'.isExternal = false ∧
          before.length + line.length < s'.offset + s'.text.length) →
        s'.isExternal = s.isExternal) := by
  obtain ⟨m, hm, rfl⟩ := List.mem_map.mp hs
  rw [halone] at hm
  have exposed : ¬ Covered (importStatement.found d.text) (before.length + m.start) :=
    fun h => hexposed (.of_covered_imports h)
  rw [htext] at exposed
  obtain ⟨m', hm', hstart, hlocal⟩ := exists_import_of_exposed hbefore hnl hafter hm exposed
  rw [← htext] at hm'
  refine ⟨_, List.mem_map_of_mem hm', hstart, ?_, fun hmatched => ?_⟩
  · show d.lineOfOffset m'.start = before.count '\n'
    rw [hstart]
    exact Document.lineOfOffset_of_line htext hnl (start_le_of_mem_found hm)
  · show (!isLocal (splitImport m'.text).2) = !isLocal (splitImport m.text).2
    rw [hlocal fun hmore => hmatched ?_]
    obtain ⟨hmarks, hlocal', hlong⟩ := hmore
    have hsame : (!isLocal (splitImport m'.text).2) = false := by
      rw [hlocal']
      rfl
    exact ⟨hmarks, hsame, hlong⟩

/-- A `require` statement of a line that is not hidden in the document stands in it on the same line,
and names the same module. -/
theorem exists_require_of_not_hidden (htext : d.text = before ++ (line ++ after)) (hnl : '\n' ∉ line)
    {alone : Document} (halone : alone.text = line) (hs : s ∈ requires alone)
    (hexposed : ¬ Hidden (requires d) (before.length + s.offset)) :
    ∃ s' ∈ requires d, s'.line = before.count '\n' ∧ s'.isExternal = s.isExternal := by
  obtain ⟨m, hm, rfl⟩ := List.mem_map.mp hs
  rw [halone] at hm
  have exposed : ¬ Covered (requireStatement.found d.text) (before.length + m.start) :=
    fun h => hexposed (.of_covered_requires h)
  rw [htext] at exposed
  obtain ⟨m', hm', hstart, hmodule⟩ := exists_require_of_exposed hm exposed
  rw [← htext] at hm'
  refine ⟨_, List.mem_map_of_mem hm', ?_, ?_⟩
  · show d.lineOfOffset m'.start = before.count '\n'
    rw [hstart]
    exact Document.lineOfOffset_of_line htext hnl (start_le_of_mem_found hm)
  · show (!isLocal (m'.groupText 1)) = !isLocal (m.groupText 1)
    rw [hmodule]

theorem unquoted_of_head (h : ∀ e ∈ z.head?, e = '\n') : Unquoted z := by
  rintro u c v rfl hu hc
  cases u with
  | nil => exact isQuote_ne_newline hc (h c rfl)
  | cons e u =>
    have hinline := hu e (List.mem_cons_self ..)
    rw [h e rfl] at hinline
    simp [isInline] at hinline

/-- A text on its own, with the tag of the document. -/
def alone (d : Document) (line : Text) : Document :=
  { text := line, language := d.language }

/-- The place in the document where a statement of a line on its own would start. -/
def place (d : Document) (i : Nat) (s : Statement) : Nat :=
  d.lineStarts.getD i 0 + s.offset

/-- The quotation marks of an `import` statement of a line on its own are unmatched, and the statement
that starts at its place in the document runs past the line to a local specifier. -/
def RunsOn (d : Document) (i : Nat) (line : Text) (s : Statement) : Prop :=
  Unmatched s.text ∧ ∃ s' ∈ imports d, s'.offset = place d i s ∧ s'.isExternal = false ∧
    d.lineStarts.getD i 0 + line.length < s'.offset + s'.text.length

/-- A line that imports from a library on its own is flagged in its document, unless each of its
library statements is hidden by an earlier one of the same form, or is an `import` statement with
unmatched quotation marks that runs past the line to a local specifier. -/
theorem mem_lines_or_hidden (hlanguage : d.language = "javascript" ∨ d.language = "typescript")
    (hline : d.lines[i]? = some line)
    (hlines : (Analysis.ofDocument (alone d line)).statementLines = [0]) :
    (∃ s ∈ imports (alone d line) ++ requires (alone d line), s.isExternal) ∧
      (i ∈ (Analysis.ofDocument d).lines ∨
        (∀ s ∈ imports (alone d line), s.isExternal →
          Hidden (imports d) (place d i s) ∨ RunsOn d i line s) ∧
        ∀ s ∈ requires (alone d line), s.isExternal → Hidden (requires d) (place d i s)) := by
  obtain ⟨before, ending, behind, hsplit, rfl, hbefore, hnl, hending, hbehind⟩ :=
    Document.exists_of_getElem?_lines hline
  have htext : d.text = before ++ (line ++ (ending ++ behind)) := by rw [hsplit]; simp
  have hafter : Unquoted (ending ++ behind) := by
    rcases hending with rfl | rfl
    · exact unquoted_of_head hbehind
    · have hreturn : Unquoted ['\r'] := by
        intro u c v huv _
        have hc : c ∈ ['\r'] := huv ▸ List.mem_append_right u (List.mem_cons_self ..)
        rw [List.mem_singleton.mp hc]
        decide
      exact hreturn.append (by decide) (unquoted_of_head hbehind)
  have start : d.lineStarts.getD (before.count '\n') 0 = before.length := by
    rw [List.getD_eq_getElem?_getD, Document.getElem?_lineStarts htext hbefore]
    rfl
  have analysis := Analysis.ofDocument_eq (Grammar.ofTag?_script hlanguage)
  have analysisAlone : Analysis.ofDocument (alone d line) =
      Analysis.ofStatements (alone d line) (recognize (alone d line)) :=
    Analysis.ofDocument_eq (d := alone d line) (Grammar.ofTag?_script hlanguage)
  have flagged : ∀ s ∈ imports d ++ requires d, s.isExternal → s.line = before.count '\n' →
      before.count '\n' ∈ (Analysis.ofDocument d).lines := by
    intro s hs hexternal hline
    rw [analysis]
    refine Analysis.mem_lines_of_mem_statementLines (Analysis.mem_statementLines.mpr ?_)
    exact ⟨s, recognize_subset hs, hexternal, hline⟩
  refine ⟨?_, ?_⟩
  · rw [analysisAlone, Analysis.statementLines_eq_singleton fun s => line_eq_zero hnl] at hlines
    obtain ⟨s, hs, hexternal⟩ := hlines
    exact ⟨s, (List.mergeSort_perm _ _).mem_iff.mp hs, hexternal⟩
  · by_contra hneither
    obtain ⟨hmem, hneither⟩ := not_or.mp hneither
    refine hneither ⟨fun s hs hexternal => ?_, fun s hs hexternal => ?_⟩
    · rw [RunsOn, place, start]
      by_contra hexposed
      obtain ⟨hexposed, hmatched⟩ := not_or.mp hexposed
      obtain ⟨s', hs', hplace, hline', hsame⟩ :=
        exists_import_of_not_hidden htext hbefore hnl hafter rfl hs hexposed
      have hexternal' : s'.isExternal := by
        rw [hsame fun hmore => hmatched ⟨hmore.1, s', hs', hplace, hmore.2⟩]
        exact hexternal
      exact hmem (flagged s' (List.mem_append_left _ hs') hexternal' hline')
    · rw [place, start]
      by_contra hexposed
      obtain ⟨s', hs', hline', hsame⟩ := exists_require_of_not_hidden htext hnl rfl hs hexposed
      have hexternal' : s'.isExternal := by rw [hsame]; exact hexternal
      exact hmem (flagged s' (List.mem_append_right _ hs') hexternal' hline')

/-- A line that imports from a library on its own is not flagged in its document. -/
def Missed (d : Document) (i : Nat) : Prop :=
  ∃ line, d.lines[i]? = some line ∧ (Analysis.ofDocument (alone d line)).statementLines = [0] ∧
    i ∉ (Analysis.ofDocument d).lines

/-- A `require` statement that runs on to the semicolon of the next line hides the statement there, and
unmatched marks take in the local specifier behind them. -/
theorem missed_hidden_unmatched :
    Missed ⟨"const a = require('a')\nconst b = require('b');".toList, "javascript", none⟩ 1 ∧
      Missed ⟨"import a from '\" ./y from\n'z'".toList, "javascript", none⟩ 0 := by
  constructor
  · exact ⟨"const b = require('b');".toList, by decide +kernel, by decide +kernel, by decide +kernel⟩
  · exact ⟨"import a from '\" ./y from".toList, by decide +kernel, by decide +kernel,
      by decide +kernel⟩

/-- Behind a `require` statement with a semicolon of its own the next one is flagged. -/
theorem mem_lines_second :
    1 ∈ (Analysis.ofDocument ⟨"const a = require('a');\nconst b = require('b');".toList,
      "javascript", none⟩).lines := by
  have hline : (Document.mk "const a = require('a');\nconst b = require('b');".toList "javascript"
      none).lines[1]? = some "const b = require('b');".toList := by decide +kernel
  rcases (mem_lines_or_hidden (.inl rfl) hline (by decide +kernel)).2 with hmem | ⟨-, hhidden⟩
  · exact hmem
  · exact absurd hhidden (by decide +kernel)

end

end Kudos.Script
