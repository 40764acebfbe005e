import Mathlib
import Kudos.Usage
import Kudos.Proofs.Pattern.Found

/-!
# What counts as a use

The two patterns of the usage scan, taken together, find exactly the plain condition: some name stands
at the edge of a word, with an opening parenthesis or a member behind it. Neither the order of the
names, nor names that start other names, nor the length of the member that backtracking settles on
make a difference. For names made of word characters the condition speaks of the words of the line.
-/

namespace Kudos.Usage

open Text Pattern

variable {names : List Text} {name line pre run rest : Text} {gs : List Text} {d : Document} {i : Nat}

/-- Whether a text, standing behind a name, makes it a use: a parenthesis opens, or a member follows. -/
def MakesUse (behind : Text) : Prop :=
  (∃ t, behind = '(' :: t) ∨ ∃ c t, behind = '.' :: c :: t ∧ isWord c

/-- Whether a name stands on a line at the edge of a word and is called or read from there. -/
def Uses (name line : Text) : Prop :=
  ∃ before behind, line = before ++ name ++ behind ∧ EdgeBetween before (name ++ behind) ∧
    MakesUse behind

/-- Whether `run` is one of the words of the line `before ++ run ++ behind`: a run of word characters
that cannot be extended on either side. -/
def IsWord (before run behind : Text) : Prop :=
  run ≠ [] ∧ (∀ c ∈ run, isWord c) ∧ (∀ c ∈ before.getLast?, ¬ isWord c) ∧
    ∀ c ∈ behind.head?, ¬ isWord c

/-! ## The patterns of the scan -/

theorem reads_firstOf {as : List Pattern} :
    (firstOf as).Reads pre run rest gs ↔ ∃ a ∈ as, a.Reads pre run rest gs := by
  fun_induction firstOf as with
  | case1 => simp [never, reads_one]
  | case2 a => simp
  | case3 a as _ ih => simp [reads_orElse, ih]

theorem mem_candidates : name ∈ candidates names ↔ name ∈ names ∧ name ≠ [] := by
  simp [candidates, sortDistinct]

theorem reads_memberOf : (memberOf name).Reads pre run rest gs ↔
    gs = [] ∧ ∃ w, run = name ++ '.' :: w ∧ w ≠ [] ∧ ∀ c ∈ w, isWord c := by
  rw [memberOf, reads_append]
  constructor
  · rintro ⟨r, w, g, h, rfl, rfl, hr, hw⟩
    obtain ⟨s, d, g', h', rfl, rfl, hs, hd⟩ := reads_append.mp hr
    obtain ⟨rfl, rfl⟩ := reads_literal.mp hs
    obtain ⟨rfl, rfl⟩ := reads_char.mp hd
    obtain ⟨hne, hword, rfl⟩ := reads_many1.mp hw
    exact ⟨rfl, w, by simp, hne, hword⟩
  · rintro ⟨rfl, w, rfl, hne, hw⟩
    refine ⟨name ++ ['.'], w, [], [], by simp, rfl, ?_, reads_many1.mpr ⟨hne, hw, rfl⟩⟩
    exact .andThen .literal (reads_char.mpr ⟨rfl, rfl⟩)

/-- Some name stands at an edge with a member behind it. -/
theorem starts_member : (member names).Starts pre rest ↔
    EdgeBetween pre rest ∧ ∃ n ∈ names, n ≠ [] ∧
      ∃ c t, rest = n ++ '.' :: c :: t ∧ isWord c := by
  constructor
  · rintro ⟨run, t, gs, rfl, h⟩
    obtain ⟨_, s, _, _, rfl, -, hedge, hs⟩ := reads_append.mp h
    obtain ⟨rfl, -, hedge⟩ := reads_wordEdge.mp hedge
    obtain ⟨a, ha, hs⟩ := reads_firstOf.mp hs
    obtain ⟨n, hn, rfl⟩ := List.mem_map.mp ha
    obtain ⟨-, w, rfl, hne, hw⟩ := reads_memberOf.mp hs
    obtain ⟨hn, hnn⟩ := mem_candidates.mp hn
    obtain ⟨c, w, rfl⟩ := List.exists_cons_of_ne_nil hne
    exact ⟨by simpa using hedge, n, hn, hnn, c, w ++ t, by simp, hw c (by simp)⟩
  · rintro ⟨hedge, n, hn, hnn, c, t, rfl, hc⟩
    refine ⟨[] ++ (n ++ ['.', c]), t, [] ++ [], by simp, ?_⟩
    refine .andThen (.wordEdge (by simpa using hedge)) (reads_firstOf.mpr ⟨memberOf n, ?_, ?_⟩)
    · exact List.mem_map.mpr ⟨n, mem_candidates.mpr ⟨hn, hnn⟩, rfl⟩
    · exact reads_memberOf.mpr ⟨rfl, [c], rfl, by simp, by simpa using hc⟩

/-- Some name stands at an edge with a call behind it, of itself or of a member. -/
theorem starts_call : (call names).Starts pre rest ↔
    EdgeBetween pre rest ∧ ∃ n ∈ names, n ≠ [] ∧
      ((∃ t, rest = n ++ '(' :: t) ∨
        ∃ w t, w ≠ [] ∧ (∀ c ∈ w, isWord c) ∧ rest = n ++ '.' :: w ++ '(' :: t) := by
  constructor
  · rintro ⟨run, t, gs, rfl, h⟩
    obtain ⟨r, p, _, _, rfl, -, hr, hp⟩ := reads_append.mp h
    obtain ⟨rfl, -⟩ := reads_char.mp hp
    obtain ⟨_, s, _, _, rfl, -, hedge, hs⟩ := reads_append.mp hr
    obtain ⟨rfl, -, hedge⟩ := reads_wordEdge.mp hedge
    obtain ⟨a, ha, hs⟩ := reads_firstOf.mp hs
    obtain ⟨n, hn, rfl⟩ := List.mem_map.mp ha
    obtain ⟨hn, hnn⟩ := mem_candidates.mp hn
    refine ⟨by simpa using hedge, n, hn, hnn, ?_⟩
    rcases reads_orElse.mp hs with hs | hs
    · obtain ⟨-, w, rfl, hne, hw⟩ := reads_memberOf.mp hs
      exact .inr ⟨w, t, hne, hw, by simp⟩
    · obtain ⟨rfl, -⟩ := reads_literal.mp hs
      exact .inl ⟨t, by simp⟩
  · rintro ⟨hedge, n, hn, hnn, hcall⟩
    have listed : (memberOf n <|> literal n) ∈
        (candidates names).map fun n => memberOf n <|> literal n :=
      List.mem_map.mpr ⟨n, mem_candidates.mpr ⟨hn, hnn⟩, rfl⟩
    rcases hcall with ⟨t, rfl⟩ | ⟨w, t, hne, hw, rfl⟩
    · refine ⟨[] ++ n ++ ['('], t, [] ++ [] ++ [], by simp, ?_⟩
      refine .andThen (.andThen (.wordEdge (by simpa using hedge)) ?_) (reads_char.mpr ⟨rfl, rfl⟩)
      exact reads_firstOf.mpr ⟨_, listed, .right .literal⟩
    · refine ⟨[] ++ (n ++ '.' :: w) ++ ['('], t, [] ++ [] ++ [], by simp, ?_⟩
      refine .andThen (.andThen (.wordEdge (by simpa using hedge)) ?_) (reads_char.mpr ⟨rfl, rfl⟩)
      exact reads_firstOf.mpr ⟨_, listed, .left (reads_memberOf.mpr ⟨rfl, w, rfl, hne, hw⟩)⟩

/-- The two patterns together find the plain condition: a call of a member is already a use of the
member, so the member pattern finds it as well. -/
theorem usedOn_iff : usedOn names line ↔ ∃ n ∈ names, n ≠ [] ∧ Uses n line := by
  rw [usedOn, Bool.or_eq_true, search_isSome, search_isSome]
  constructor
  · rintro (⟨x, y, rfl, h⟩ | ⟨x, y, rfl, h⟩)
    · obtain ⟨hedge, n, hn, hnn, ⟨t, rfl⟩ | ⟨w, t, hne, hw, rfl⟩⟩ := starts_call.mp h
      · exact ⟨n, hn, hnn, x, '(' :: t, by simp, hedge, .inl ⟨t, rfl⟩⟩
      · obtain ⟨c, w, rfl⟩ := List.exists_cons_of_ne_nil hne
        refine ⟨n, hn, hnn, x, '.' :: c :: (w ++ '(' :: t), by simp, by simpa using hedge, ?_⟩
        exact .inr ⟨c, w ++ '(' :: t, rfl, hw c (by simp)⟩
    · obtain ⟨hedge, n, hn, hnn, c, t, rfl, hc⟩ := starts_member.mp h
      exact ⟨n, hn, hnn, x, '.' :: c :: t, by simp, hedge, .inr ⟨c, t, rfl, hc⟩⟩
  · rintro ⟨n, hn, hnn, x, y, rfl, hedge, ⟨t, rfl⟩ | ⟨c, t, rfl, hc⟩⟩
    · exact .inl ⟨x, n ++ '(' :: t, by simp, starts_call.mpr ⟨hedge, n, hn, hnn, .inl ⟨t, rfl⟩⟩⟩
    · exact .inr ⟨x, n ++ '.' :: c :: t, by simp, starts_member.mpr ⟨hedge, n, hn, hnn, c, t, rfl, hc⟩⟩

theorem mem_lines : i ∈ lines d names ↔ ∃ line, d.lines[i]? = some line ∧ usedOn names line := by
  simp [lines, List.mem_zipIdx_iff_getElem?, and_comm]

/-! ## Names made of word characters -/

theorem MakesUse.not_isWord {behind : Text} (h : MakesUse behind) :
    ∀ c ∈ behind.head?, ¬ isWord c := by
  obtain ⟨t, rfl⟩ | ⟨c, t, rfl, -⟩ := h
  · simpa using (by decide : isWord '(' = false)
  · simpa using (by decide : isWord '.' = false)

/-- A name made of word characters is used where it is a whole word. -/
theorem uses_iff_of_isWord (hne : name ≠ []) (hname : ∀ c ∈ name, isWord c) :
    Uses name line ↔ ∃ before behind, line = before ++ name ++ behind ∧
      IsWord before name behind ∧ MakesUse behind := by
  obtain ⟨c, t, rfl⟩ := List.exists_cons_of_ne_nil hne
  have starts : ∀ before behind : Text,
      EdgeBetween before (c :: t ++ behind) ↔ ∀ e ∈ before.getLast?, ¬ isWord e := by
    intro before behind
    have := hname c (by simp)
    cases hlast : before.getLast? <;> simp [EdgeBetween, hlast, this]
  constructor
  · rintro ⟨before, behind, rfl, hedge, huse⟩
    refine ⟨before, behind, rfl, ⟨by simp, hname, ?_, huse.not_isWord⟩, huse⟩
    exact (starts before behind).mp hedge
  · rintro ⟨before, behind, rfl, ⟨-, -, hbefore, -⟩, huse⟩
    exact ⟨before, behind, rfl, (starts before behind).mpr hbefore, huse⟩

/-- A line uses the names that are words of it and are called or have a member read. -/
theorem usedOn_of_isWord {before behind : Text} (hname : name ∈ names) (hword : IsWord before name behind)
    (huse : MakesUse behind) : usedOn names (before ++ name ++ behind) :=
  usedOn_iff.mpr ⟨name, hname, hword.1,
    (uses_iff_of_isWord hword.1 hword.2.1).mpr ⟨before, behind, rfl, hword, huse⟩⟩

/-- The lines that the scan flags are those on which a non-empty name stands at the edge of a word and
is called or has a member read. When the names are made of word characters, these are the lines of
which some word is a name and is called or has a member read. -/
theorem mem_lines_iff_uses (d : Document) (names : List Text) (i : Nat) :
    (i ∈ lines d names ↔
      ∃ line, d.lines[i]? = some line ∧ ∃ name ∈ names, name ≠ [] ∧ Uses name line) ∧
    ((∀ name ∈ names, ∀ c ∈ name, isWord c) →
      (i ∈ lines d names ↔
        ∃ line, d.lines[i]? = some line ∧ ∃ before run behind,
          line = before ++ run ++ behind ∧ IsWord before run behind ∧ run ∈ names ∧
            MakesUse behind)) := by
  have plain : i ∈ lines d names ↔
      ∃ line, d.lines[i]? = some line ∧ ∃ name ∈ names, name ≠ [] ∧ Uses name line := by
    simp only [mem_lines, usedOn_iff]
  refine ⟨plain, fun hnames => ?_⟩
  rw [plain]
  refine exists_congr fun line => and_congr_right fun _ => ?_
  constructor
  · rintro ⟨name, hmem, hne, huses⟩
    obtain ⟨before, behind, hline, hword, huse⟩ :=
      (uses_iff_of_isWord hne (hnames name hmem)).mp huses
    exact ⟨before, name, behind, hline, hword, hmem, huse⟩
  · rintro ⟨before, run, behind, hline, hword, hmem, huse⟩
    refine ⟨run, hmem, hword.1, (uses_iff_of_isWord hword.1 (hnames run hmem)).mpr ?_⟩
    exact ⟨before, behind, hline, hword, huse⟩

/-- On the second of these lines `os` is a whole word with a member behind it; on the first one it only
ends a longer word. -/
theorem word_of_mem_lines_os :
    (∀ name ∈ ["os".toList], ∀ c ∈ name, isWord c) ∧
      0 ∉ lines { text := "macos(1)\nx = os.path(2)".toList } ["os".toList] ∧
      ∃ line, (Document.lines { text := "macos(1)\nx = os.path(2)".toList })[1]? = some line ∧
        ∃ before run behind, line = before ++ run ++ behind ∧ IsWord before run behind ∧
          run ∈ ["os".toList] ∧ MakesUse behind := by
  have words : ∀ name ∈ ["os".toList], ∀ c ∈ name, isWord c := by
    simpa using (by decide : isWord 'o' ∧ isWord 's')
  have flagged : 1 ∈ lines { text := "macos(1)\nx = os.path(2)".toList } ["os".toList] := by
    decide +kernel
  exact ⟨words, by decide +kernel, ((mem_lines_iff_uses _ _ 1).2 words).mp flagged⟩

end Kudos.Usage
