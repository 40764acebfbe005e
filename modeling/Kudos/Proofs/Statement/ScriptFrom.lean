import Mathlib
import Kudos.Proofs.Statement.ScriptFirst

/-!
# `from` as an imported name

In a list in braces `from` may be a name. The pattern of the `import` statement finds the right `from`
before the specifier, but a statement is cut at its first `from` between white space, and that is the
name when it has white space on both sides (`Member.cut`). A list is read as it is written exactly when
no member is cut; otherwise the names end at the cut, and what stands behind it is taken for the module
(`recognize_members`).
-/

namespace Kudos.Script

open Text Pattern

/-! ## Lists of names -/

/-- A name other than `as`. It may be `from`. -/
structure Label extends Run1 isNameChar where
  ne_as : text ≠ "as".toList

/-- A name with an alias, if it has one, and with what stands around them. -/
structure Member where
  before : Space
  name : Label
  /-- The local name, with what stands around the keyword before it. -/
  renamed : Option (Gap × Gap × Label)
  behind : Space

/-- The name and its alias as written. -/
def Member.entry (m : Member) : Text :=
  match m.renamed with
  | none => m.name.text
  | some (gap, gap', name) => m.name.text ++ (gap.text ++ "as".toList ++ gap'.text ++ name.text)

/-- The member as written. -/
def Member.text (m : Member) : Text :=
  m.before.text ++ m.entry ++ m.behind.text

/-- The local name. -/
def Member.bound (m : Member) : Text :=
  match m.renamed with
  | none => m.name.text
  | some (_, _, name) => name.text

/-- The names that are left of a member in which a `from` has white space on both sides: none before
the name, and the name with the keyword behind it before the alias. -/
def Member.cut (m : Member) : Option (List Text) :=
  if m.name.text = "from".toList ∧ m.before.text ≠ [] ∧ (m.renamed.isSome ∨ m.behind.text ≠ []) then
    some []
  else
    match m.renamed with
    | none => none
    | some (gap, _, name) =>
      if name.text = "from".toList ∧ m.behind.text ≠ [] then
        some [m.name.text ++ gap.text ++ "as".toList]
      else none

/-- At least one member, with commas between them. -/
structure Members where
  /-- The members with a comma behind them. -/
  leading : List Member
  final : Member

/-- The members in order. -/
def Members.list (b : Members) : List Member :=
  b.leading ++ [b.final]

/-- The members as written. -/
def writtenMembers (leading : List Member) (final : Member) : Text :=
  (leading.flatMap fun m => m.text ++ [',']) ++ final.text

/-- The members in braces. -/
def Members.text (b : Members) : Text :=
  '\x7b' :: (writtenMembers b.leading b.final ++ ['\x7d'])

/-- The local names of the members. -/
def Members.names (b : Members) : List Text :=
  b.list.map (·.bound)

/-- The local names up to the first member that is cut, and what is left of that one. -/
def namesToCut : List Member → List Text
  | [] => []
  | m :: ms =>
    match m.cut with
    | none => m.bound :: namesToCut ms
    | some left => left

variable {pre rest t x y : Text} {c : Char} {left : List Text}

theorem Member.entry_of_plain {m : Member} (h : m.renamed = none) : m.entry = m.name.text := by
  simp [entry, h]

theorem Member.entry_of_renamed {m : Member} {gap gap' : Gap} {name : Label}
    (h : m.renamed = some (gap, gap', name)) :
    m.entry = (m.name.text ++ gap.text ++ "as".toList) ++ (gap'.text ++ name.text) := by
  simp [entry, h]

theorem Member.bound_ne_nil (m : Member) : m.bound ≠ [] := by
  unfold Member.bound
  split
  · exact m.name.ne_nil
  · rename_i name _
    exact name.ne_nil

/-- In a member that is not cut every `from` stands next to a brace or a comma. -/
theorem Member.of_cut_eq_none {m : Member} (hcut : m.cut = none) :
    (m.name.text = "from".toList → m.before.text ≠ [] → m.renamed = none ∧ m.behind.text = []) ∧
      ∀ gap gap' name, m.renamed = some (gap, gap', name) → name.text = "from".toList →
        m.behind.text = [] := by
  unfold Member.cut at hcut
  split at hcut
  · simp at hcut
  · rename_i hname
    refine ⟨fun hfrom hbefore => ?_, fun gap gap' name hrenamed hfrom => ?_⟩
    · have := fun h => hname ⟨hfrom, hbefore, h⟩
      simpa [not_or] using this
    · rw [hrenamed] at hcut
      simpa [hfrom] using hcut

/-- A member is cut at its name, or between the keyword `as` and its alias. -/
theorem Member.of_cut_eq_some {m : Member} (hcut : m.cut = some left) :
    (left = [] ∧ m.name.text = "from".toList ∧ m.before.text ≠ [] ∧
      (m.renamed.isSome ∨ m.behind.text ≠ [])) ∨
    ∃ gap gap' name, m.renamed = some (gap, gap', name) ∧ name.text = "from".toList ∧
      m.behind.text ≠ [] ∧ left = [m.name.text ++ gap.text ++ "as".toList] ∧
      (m.name.text = "from".toList → m.before.text = []) := by
  unfold Member.cut at hcut
  split at hcut
  · rename_i hname
    exact .inl ⟨(Option.some.inj hcut).symm, hname⟩
  · rename_i hname
    cases hrenamed : m.renamed with
    | none => simp [hrenamed] at hcut
    | some alias' =>
      obtain ⟨gap, gap', name⟩ := alias'
      rw [hrenamed] at hcut
      simp only at hcut
      split at hcut
      · rename_i hfrom
        refine .inr ⟨gap, gap', name, rfl, hfrom.1, hfrom.2, (Option.some.inj hcut).symm, fun h => ?_⟩
        by_contra hbefore
        exact hname ⟨h, hbefore, .inl (by simp [hrenamed])⟩
      · simp at hcut

/-- What a cut leaves of a member is not its local name. -/
theorem Member.cut_ne_bound (m : Member) (others : List Text) : m.cut ≠ some (m.bound :: others) := by
  intro hcut
  rcases m.of_cut_eq_some hcut with ⟨hnil, -⟩ | ⟨gap, _, name, hrenamed, -, -, hleft, -⟩
  · simp at hnil
  · obtain ⟨hsame, -⟩ := List.cons.inj hleft
    obtain ⟨c, s, hgap, hc⟩ := gap.exists_cons
    have hmem : c ∈ name.text := by
      have hbound : m.bound = name.text := by simp [bound, hrenamed]
      simp [← hbound, hsame, hgap]
    exact not_isBlank_of_isNameChar (name.all c hmem) (Text.isBlank_of_isIndent hc)

theorem namesToCut_eq_iff (ms : List Member) :
    namesToCut ms = ms.map (·.bound) ↔ ∀ m ∈ ms, m.cut = none := by
  induction ms with
  | nil => simp [namesToCut]
  | cons m ms ih =>
    cases hcut : m.cut with
    | none => simp [namesToCut, hcut, ih]
    | some left =>
      have hne : left ≠ m.bound :: ms.map (·.bound) := by
        rintro rfl
        exact m.cut_ne_bound _ hcut
      simpa [namesToCut, hcut] using hne

/-! ## Names of members -/

theorem Member.head_visible (m : Member) : ∀ e ∈ (m.entry ++ t).head?, ¬ isBlank e := by
  unfold Member.entry
  split
  · exact head_visible_of_names m.name.toRun1
  · rw [List.append_assoc]
    exact head_visible_of_names m.name.toRun1

theorem Member.last_visible (m : Member) : ∀ e ∈ (t ++ m.entry).getLast?, ¬ isBlank e := by
  unfold Member.entry
  split
  · exact last_visible_of_names m.name.toRun1
  · rename_i name _
    rw [← List.append_assoc, ← List.append_assoc]
    exact last_visible_of_names name.toRun1

theorem Member.boundName_entry (m : Member) (hx : Opened x) (hy : Closing y) :
    boundName (x ++ m.entry ++ y) = m.bound := by
  unfold Member.entry Member.bound
  split
  · have apart := apart_as_of_ne m.name.toRun1 m.name.ne_as hx.not_isNameChar hy.not_isNameChar
    have quiet := quiet_as_of_apart apart (hy.last_visible (last_visible_of_names m.name.toRun1))
    exact boundName_of_quiet hx hy quiet (not_mem_name m.name.all (by decide))
      (not_mem_name m.name.all (by decide)) (fun _ => head_visible_of_names m.name.toRun1)
      (by simpa using last_visible_of_names m.name.toRun1 (t := []))
  · rename_i gap gap' name _
    exact boundName_of_renamed gap gap' m.name.ne_as name.ne_as hx hy

theorem Member.boundName_text (m : Member) (hx : Opening x) (hy : Closing y) :
    boundName (trim (x ++ m.text ++ y)) = m.bound :=
  boundName_between m.before m.behind hx hy (fun _ => m.head_visible) (fun _ => m.last_visible)
    fun _ _ => m.boundName_entry

/-- A name before the keyword `as` is read with the keyword when nothing follows. -/
theorem boundName_renamed_lead (before : Space) (l : Label) (gap : Gap) (hx : Opening x) :
    boundName (trim (x ++ (before.text ++ (l.text ++ gap.text ++ "as".toList)))) =
      l.text ++ gap.text ++ "as".toList := by
  have unbraced : ∀ e, isNameChar e = false → isBlank e = false →
      e ∉ l.text ++ gap.text ++ "as".toList := by
    intro e hname hblank hmem
    simp only [List.mem_append] at hmem
    rcases hmem with (hmem | hmem) | hmem
    · exact not_mem_name l.all hname hmem
    · exact not_mem_blank gap.isBlank_of_isIndent hblank hmem
    · exact not_mem_name isNameChar_of_mem_as hname hmem
  have visible : ∀ e ∈ "as".toList, ¬ isBlank e :=
    fun e he => not_isBlank_of_isNameChar (isNameChar_of_mem_as e he)
  have first : ∀ t, ∀ e ∈ (l.text ++ gap.text ++ "as".toList ++ t).head?, ¬ isBlank e := by
    intro t
    rw [List.append_assoc, List.append_assoc]
    exact head_visible_of_names l.toRun1
  have last : ∀ t, ∀ e ∈ (t ++ (l.text ++ gap.text ++ "as".toList)).getLast?, ¬ isBlank e := by
    intro t e he
    rw [← List.append_assoc, List.getLast?_append_of_ne_nil _ (by simp)] at he
    exact visible e (List.mem_of_getLast? he)
  obtain ⟨o, ho, htrim⟩ := exists_opened hx before.isBlank_of_isIndent
  have start : ∀ e ∈ (o ++ (l.text ++ gap.text ++ "as".toList)).head?, ¬ isBlank e := by
    rcases ho with rfl | ⟨inner, -, rfl⟩
    · simpa using first []
    · simp
      decide
  -- The keyword is the end of the entry, so there is no white space behind it.
  have quiet : (spaced "as".toList).Quiet [] (o ++ (l.text ++ gap.text ++ "as".toList) ++ []) [] := by
    have split : o ++ (l.text ++ gap.text ++ "as".toList) ++ [] =
        (o ++ l.text) ++ (gap.text ++ "as".toList) := by simp
    have name : Apart isNameChar "as".toList (o ++ l.text) := by
      simpa using apart_as_of_ne l.toRun1 l.ne_as ho.not_isNameChar (by simp : ∀ c ∈ [], ¬ isNameChar c)
    rw [split]
    refine .append ?_ (.append ?_ (quiet_spaced_visible visible))
    · refine quiet_spaced (fun _ => not_isNameChar_of_isBlank) isNameChar_of_mem_as name
        (last_visible_of_names l.toRun1) ?_
      rw [List.append_nil]
      exact isIndent_head_blank gap
    · refine quiet_spaced_gap (by simp) (by simp; decide) gap.isBlank_of_isIndent (by simp; decide) ?_
      intro e _ hprefix
      have := hprefix.length_le
      simp at this
  have bound := boundName_of_quiet ho (.inl rfl) quiet (unbraced _ (by decide) (by decide))
    (unbraced _ (by decide) (by decide)) first (by simpa using last [])
  rw [htrim, trim_eq_self start (last o)]
  simpa using bound

/-! ## Members that are not cut -/

theorem Label.visible (l : Label) : ∀ e ∈ l.text, ¬ isBlank e :=
  fun e he => not_isBlank_of_isNameChar (l.all e he)

/-- White space before a name is no place for a cut, unless the name is `from` and white space follows
it. -/
theorem quiet_before_label (gap : Space) (l : Label) (hstop : ∀ e ∈ rest.head?, ¬ isNameChar e)
    (h : l.text = "from".toList → gap.text ≠ [] → ∀ e ∈ rest.head?, ¬ isBlank e) :
    (spaced "from".toList).Quiet pre gap.text (l.text ++ rest) := by
  by_cases hgap : gap.text = []
  · rw [hgap]
    exact .nil
  · refine quiet_spaced_gap (by simp) (by simp; decide) gap.isBlank_of_isIndent
      (head_visible_of_names l.toRun1) ?_
    rintro e he ⟨u, hu⟩
    have cut : "from".toList ++ e :: u = l.text ++ rest := by simpa using hu
    obtain ⟨hfrom, hrest⟩ := eq_of_run (p := isNameChar) cut isNameChar_of_mem_from l.all
      (by simpa using not_isNameChar_of_isBlank he) hstop
    exact h hfrom.symm hgap e (by simp [← hrest]) he

/-- White space before another word is none either. -/
theorem quiet_before_word (gap : Space) (ht : ∀ e ∈ t.head?, ¬ isBlank e ∧ e ≠ 'f') :
    (spaced "from".toList).Quiet pre gap.text t := by
  refine quiet_spaced_blank (by simp; decide) gap.isBlank_of_isIndent (fun e he => (ht e he).1) ?_
  rintro ⟨u, rfl⟩
  exact (ht 'f' (by simp)).2 rfl

/-- What stands behind a member starts with a comma or a brace, maybe behind white space. -/
theorem head_behind (gap : Space) (hc : c = ',' ∨ c = '\x7d') :
    (∀ e ∈ (gap.text ++ c :: t).head?, ¬ isNameChar e) ∧
      (gap.text = [] → ∀ e ∈ (gap.text ++ c :: t).head?, ¬ isBlank e) := by
  have mark : ¬ isNameChar c ∧ ¬ isBlank c := by rcases hc with rfl | rfl <;> decide
  refine ⟨?_, fun hgap => by simpa [hgap] using mark.2⟩
  intro e he
  cases hgap : gap.text with
  | nil =>
    obtain rfl : c = e := by simpa [hgap] using he
    exact mark.1
  | cons d s =>
    obtain rfl : d = e := by simpa [hgap] using he
    exact gap.not_isNameChar d (by simp [hgap])

/-- A name with the keyword before its alias holds no cut. -/
theorem quiet_renamed_lead (l : Label) (gap : Gap) :
    (spaced "from".toList).Quiet pre (l.text ++ gap.text ++ "as".toList) rest := by
  have visible : ∀ e ∈ "as".toList, ¬ isBlank e :=
    fun e he => not_isBlank_of_isNameChar (isNameChar_of_mem_as e he)
  refine .append (.append (quiet_spaced_visible l.visible) ?_) (quiet_spaced_visible visible)
  exact quiet_before_word gap.toRun (by simp; decide)

/-- A member that is not cut is passed over. -/
theorem Member.quiet {m : Member} (hcut : m.cut = none) (hc : c = ',' ∨ c = '\x7d') :
    (spaced "from".toList).Quiet pre m.text (c :: t) := by
  obtain ⟨hname, hrenamed⟩ := of_cut_eq_none hcut
  obtain ⟨hstop, hvisible⟩ := head_behind (t := t) m.behind hc
  have stop : ∀ e ∈ (c :: t).head?, ¬ isBlank e ∧ e ≠ 'f' := by
    rcases hc with rfl | rfl
    · simp
      decide
    · simp
      decide
  unfold Member.text
  cases h : m.renamed with
  | none =>
    rw [entry_of_plain h]
    refine .append (.append ?_ (quiet_spaced_visible m.name.visible)) (quiet_before_word m.behind stop)
    exact quiet_before_label m.before m.name hstop fun hfrom hbefore =>
      hvisible (hname hfrom hbefore).2
  | some renamed =>
    obtain ⟨gap, gap', name⟩ := renamed
    rw [entry_of_renamed h]
    refine .append (.append ?_ (.append (quiet_renamed_lead m.name gap) (.append ?_
      (quiet_spaced_visible name.visible)))) (quiet_before_word m.behind stop)
    · simp only [List.append_assoc]
      refine quiet_before_label m.before m.name gap.head_not_isNameChar fun hfrom hbefore => ?_
      simp [(hname hfrom hbefore).1] at h
    · exact quiet_before_label gap'.toRun name hstop fun hfrom _ =>
        hvisible (hrenamed gap gap' name h hfrom)

/-! ## Cuts -/

/-- A text is cut at a first `from` between white space: behind `x` and before `y`. -/
def CutsAt (pre t x y : Text) : Prop :=
  ∃ gap gap', t = x ++ (gap ++ "from".toList ++ gap' ++ y) ∧
    (spaced "from".toList).Quiet pre x (gap ++ "from".toList ++ gap' ++ y) ∧ gap ≠ [] ∧ gap' ≠ [] ∧
      (∀ e ∈ gap, isBlank e) ∧ (∀ e ∈ gap', isBlank e) ∧ ∀ e ∈ y.head?, ¬ isBlank e

theorem CutsAt.behind (hx : (spaced "from".toList).Quiet pre rest t) (h : CutsAt (pre ++ rest) t x y) :
    CutsAt pre (rest ++ t) (rest ++ x) y := by
  obtain ⟨gap, gap', rfl, quiet, hne, hne', hgap, hgap', hy⟩ := h
  exact ⟨gap, gap', by simp, hx.append quiet, hne, hne', hgap, hgap', hy⟩

theorem CutsAt.pieces (h : CutsAt pre t x y) :
    ∃ pre', (spaced "from".toList).piecesBehind pre t =
      x :: (spaced "from".toList).piecesBehind pre' y := by
  obtain ⟨gap, gap', rfl, quiet, hne, hne', hgap, hgap', hy⟩ := h
  exact ⟨_, piecesBehind_of_readsFirst quiet (by simp [hne])
    (readsFirst_spaced (by simp; decide) hne hne' hgap hgap' hy)⟩

/-- Members are cut: what stands before the cut gives the names, and what stands behind it, with the
rest of the text, starts with the keyword `as`, a comma or a brace. -/
structure CutIn (pre members t x y : Text) (names : List Text) : Prop where
  cutsAt : CutsAt pre (members ++ t) x (y ++ t)
  names_eq : ∀ o, Opening o → pieceNames (splitOn ',' (o ++ x)) = names
  last_visible : ∀ e ∈ x.getLast?, ¬ isBlank e
  isClauseChar_behind : ∀ e ∈ y, isClauseChar e
  head : ∃ c s, y ++ t = c :: s ∧ (c = 'a' ∨ c = ',' ∨ c = '\x7d')

theorem Member.isClauseChar_of_mem (m : Member) : ∀ e ∈ m.text, isClauseChar e := by
  have label : ∀ l : Label, ∀ e ∈ l.text, isClauseChar e :=
    fun l e he => isClauseChar_of_isNameChar (l.all e he)
  have space : ∀ s : Space, ∀ e ∈ s.text, isClauseChar e :=
    fun s e he => isClauseChar_of_isIndent (s.all e he)
  have entry : ∀ e ∈ m.entry, isClauseChar e := by
    intro e he
    cases h : m.renamed with
    | none =>
      rw [entry_of_plain h] at he
      exact label m.name e he
    | some renamed =>
      obtain ⟨gap, gap', name⟩ := renamed
      rw [entry_of_renamed h] at he
      simp only [List.mem_append] at he
      rcases he with ((he | he) | he) | he | he
      · exact label m.name e he
      · exact space gap.toRun e he
      · exact isClauseChar_of_isNameChar (isNameChar_of_mem_as e he)
      · exact space gap'.toRun e he
      · exact label name e he
  intro e he
  simp only [Member.text, List.mem_append] at he
  rcases he with (he | he) | he
  · exact space m.before e he
  · exact entry e he
  · exact space m.behind e he

theorem Member.comma_not_mem (m : Member) : ',' ∉ m.text := by
  have label : ∀ l : Label, ',' ∉ l.text := fun l => not_mem_name l.all (by decide)
  have entry : ',' ∉ m.entry := by
    cases h : m.renamed with
    | none =>
      rw [entry_of_plain h]
      exact label m.name
    | some renamed =>
      obtain ⟨gap, gap', name⟩ := renamed
      rw [entry_of_renamed h]
      simp [label, comma_not_mem_gap]
  simp [Member.text, entry, comma_not_mem_gap]

theorem Opening.comma_not_mem (hx : Opening x) : ',' ∉ x := by
  rcases hx with rfl | ⟨gap, hgap, rfl⟩
  · simp
  · simpa using not_mem_blank hgap (by decide)

/-- Nothing but the opening of a list binds no name. -/
theorem pieceNames_opening (hx : Opening x) : pieceNames (splitOn ',' x) = [] := by
  rw [splitOn_of_not_mem hx.comma_not_mem]
  refine pieceNames_cons_of_nil ?_ []
  rcases hx with rfl | ⟨gap, hgap, rfl⟩
  · decide
  · rw [trim_blank_append hgap]
    decide

/-- A member is cut where `Member.cut` says. -/
theorem Member.cutIn {m : Member} (hcut : m.cut = some left) (hc : c = ',' ∨ c = '\x7d') :
    ∃ x y, CutIn pre m.text (c :: t) x y left := by
  have mark : ¬ isBlank c := by rcases hc with rfl | rfl <;> decide
  rcases of_cut_eq_some hcut with ⟨rfl, hname, hbefore, hbehind⟩ |
    ⟨gap, gap', name, h, hname, hbehind, rfl, hfree⟩
  · have none : ∀ o, Opening o → pieceNames (splitOn ',' (o ++ [])) = [] := by
      intro o ho
      rw [List.append_nil]
      exact pieceNames_opening ho
    cases h : m.renamed with
    | none =>
      have hbehind : m.behind.text ≠ [] := by simpa [h] using hbehind
      refine ⟨[], [], ?_, none, by simp, by simp, c, t, rfl, .inr hc⟩
      refine ⟨m.before.text, m.behind.text, ?_, .nil, hbefore, hbehind, m.before.isBlank_of_isIndent,
        m.behind.isBlank_of_isIndent, by simpa using mark⟩
      simp [Member.text, entry_of_plain h, hname]
    | some renamed =>
      obtain ⟨gap, gap', name⟩ := renamed
      have split : m.text = m.before.text ++ "from".toList ++ gap.text ++
          ("as".toList ++ gap'.text ++ name.text ++ m.behind.text) := by
        simp [Member.text, entry_of_renamed h, hname]
      refine ⟨[], "as".toList ++ gap'.text ++ name.text ++ m.behind.text, ?_, none, by simp, ?_, 'a', _,
        rfl, .inl rfl⟩
      · refine ⟨m.before.text, gap.text, ?_, .nil, hbefore, gap.ne_nil, m.before.isBlank_of_isIndent,
          gap.isBlank_of_isIndent, by simp; decide⟩
        rw [split]
        simp
      · intro e he
        refine m.isClauseChar_of_mem e ?_
        rw [split]
        exact List.mem_append_right _ he
  · have names : ∀ o, Opening o → pieceNames (splitOn ',' (o ++ (m.before.text ++
        (m.name.text ++ gap.text ++ "as".toList)))) = [m.name.text ++ gap.text ++ "as".toList] := by
      intro o ho
      have bound := boundName_renamed_lead m.before m.name gap ho
      have plain : ',' ∉ o ++ (m.before.text ++ (m.name.text ++ gap.text ++ "as".toList)) := by
        simp [ho.comma_not_mem, comma_not_mem_gap, not_mem_name m.name.all (by decide : isNameChar ',' = false)]
      rw [splitOn_of_not_mem plain, pieceNames_cons (by rw [bound]; simp), bound]
      rfl
    have split : m.text ++ c :: t = (m.before.text ++ (m.name.text ++ gap.text ++ "as".toList)) ++
        (gap'.text ++ "from".toList ++ m.behind.text ++ ([] ++ c :: t)) := by
      simp [Member.text, entry_of_renamed h, hname]
    refine ⟨_, [], ?_, names, ?_, by simp, c, t, rfl, .inr hc⟩
    · refine ⟨gap'.text, m.behind.text, split, .append ?_ (quiet_renamed_lead m.name gap), gap'.ne_nil,
        hbehind, gap'.isBlank_of_isIndent, m.behind.isBlank_of_isIndent, by simpa using mark⟩
      simp only [List.append_assoc]
      exact quiet_before_label m.before m.name gap.head_not_isNameChar fun hfrom hbefore =>
        absurd (hfree hfrom) hbefore
    · intro e he
      rw [← List.append_assoc, List.getLast?_append_of_ne_nil _ (by simp)] at he
      exact not_isBlank_of_isNameChar (isNameChar_of_mem_as e (List.mem_of_getLast? he))

/-- Behind a member that is not cut the next cut is the first one. -/
theorem CutIn.behind {m : Member} {members : Text} (hm : m.cut = none)
    (h : CutIn (pre ++ (m.text ++ [','])) members t x y left) :
    CutIn pre (m.text ++ ',' :: members) t (m.text ++ ',' :: x) y (m.bound :: left) := by
  refine ⟨?_, fun o ho => ?_, ?_, h.isClauseChar_behind, h.head⟩
  · have comma : ∀ e ∈ [','], ¬ isBlank e := by simpa using by decide
    have passed : (spaced "from".toList).Quiet pre (m.text ++ [',']) (members ++ t) :=
      .append (Member.quiet hm (.inl rfl)) (quiet_spaced_visible comma)
    simpa using h.cutsAt.behind passed
  · have split : o ++ (m.text ++ ',' :: x) = (o ++ m.text) ++ ',' :: ([] ++ x) := by simp
    have plain : ',' ∉ o ++ m.text := by simp [ho.comma_not_mem, m.comma_not_mem]
    have bound : boundName (trim (o ++ m.text)) = m.bound := by
      simpa using m.boundName_text ho (.inl rfl)
    rw [split, splitOn_append_cons plain, pieceNames_cons (by rw [bound]; exact m.bound_ne_nil), bound,
      h.names_eq [] (.inl rfl)]
  · intro e he
    rcases List.eq_nil_or_concat x with rfl | ⟨u, d, rfl⟩
    · obtain rfl : ',' = e := by simpa using he
      decide
    · refine h.last_visible e ?_
      rw [List.concat_eq_append] at he ⊢
      rw [← List.cons_append, ← List.append_assoc, List.getLast?_concat] at he
      rwa [List.getLast?_concat]

/-- More members behind the cut do not change it. -/
theorem CutIn.before {members others : Text} (hothers : ∀ e ∈ others, isClauseChar e)
    (h : CutIn pre members (others ++ t) x y left) :
    CutIn pre (members ++ others) t x (y ++ others) left := by
  refine ⟨by simpa using h.cutsAt, h.names_eq, h.last_visible, fun e he => ?_, by simpa using h.head⟩
  rcases List.mem_append.mp he with he | he
  · exact h.isClauseChar_behind e he
  · exact hothers e he

/-! ## Lists of members -/

variable {b : Members} {f : Frame} {leading : List Member} {final : Member} {d : Document}

theorem writtenMembers_cons (m : Member) (leading : List Member) (final : Member) :
    writtenMembers (m :: leading) final = m.text ++ ',' :: writtenMembers leading final := by
  simp [writtenMembers]

theorem isClauseChar_of_mem_members (leading : List Member) (final : Member) :
    ∀ e ∈ writtenMembers leading final, isClauseChar e := by
  intro e he
  simp only [writtenMembers, List.mem_append, List.mem_flatMap, List.mem_singleton] at he
  rcases he with ⟨m, -, he | rfl⟩ | he
  · exact m.isClauseChar_of_mem e he
  · decide
  · exact final.isClauseChar_of_mem e he

/-- Members that are not cut are passed over. -/
theorem quiet_members (h : ∀ m ∈ leading ++ [final], m.cut = none) :
    (spaced "from".toList).Quiet pre (writtenMembers leading final) ('\x7d' :: t) := by
  induction leading generalizing pre with
  | nil => exact Member.quiet (h final (by simp)) (.inr rfl)
  | cons m leading ih =>
    have comma : ∀ e ∈ [','], ¬ isBlank e := by simpa using by decide
    have split : writtenMembers (m :: leading) final = m.text ++ ([','] ++ writtenMembers leading final) :=
      writtenMembers_cons m leading final
    rw [split]
    refine .append (Member.quiet (h m (by simp)) (.inl rfl)) (.append (quiet_spaced_visible comma) ?_)
    exact ih fun m' hm' => h m' (by simpa using .inr (by simpa using hm'))

/-- Members of which one is cut are cut at the first such one. -/
theorem exists_cutIn (h : ∃ m ∈ leading ++ [final], m.cut ≠ none) :
    ∃ x y, CutIn pre (writtenMembers leading final) ('\x7d' :: t) x y
      (namesToCut (leading ++ [final])) := by
  induction leading generalizing pre with
  | nil =>
    obtain ⟨m, hm, hcut⟩ := h
    obtain rfl : m = final := by simpa using hm
    obtain ⟨left, hleft⟩ := Option.ne_none_iff_exists'.mp hcut
    have names : namesToCut ([] ++ [m]) = left := by simp [namesToCut, hleft]
    rw [names]
    exact Member.cutIn hleft (.inr rfl)
  | cons m leading ih =>
    rw [writtenMembers_cons, List.cons_append, namesToCut]
    cases hcut : m.cut with
    | none =>
      have later : ∃ m ∈ leading ++ [final], m.cut ≠ none := by
        obtain ⟨m', hm', hcut'⟩ := h
        rcases List.mem_cons.mp hm' with rfl | hm'
        · exact absurd hcut hcut'
        · exact ⟨m', hm', hcut'⟩
      obtain ⟨x, y, hxy⟩ : ∃ x y, CutIn (pre ++ (m.text ++ [','])) (writtenMembers leading final)
          ('\x7d' :: t) x y (namesToCut (leading ++ [final])) := ih later
      exact ⟨_, y, hxy.behind hcut⟩
    | some left =>
      have others : ∀ e ∈ ',' :: writtenMembers leading final, isClauseChar e := by
        intro e he
        rcases List.mem_cons.mp he with rfl | he
        · decide
        · exact isClauseChar_of_mem_members leading final e he
      obtain ⟨x, y, hxy⟩ : ∃ x y, CutIn pre m.text
          (',' :: (writtenMembers leading final ++ '\x7d' :: t)) x y left := Member.cutIn hcut (.inl rfl)
      exact ⟨x, _, CutIn.before others hxy⟩

theorem pieceNames_members (hx : Opening x) :
    pieceNames (splitOn ',' (x ++ (writtenMembers leading final ++ ['\x7d']))) =
      (leading ++ [final]).map (·.bound) := by
  induction leading generalizing x with
  | nil =>
    have plain : ',' ∉ x ++ (final.text ++ ['\x7d']) := by
      simp [hx.comma_not_mem, final.comma_not_mem]
    have bound := final.boundName_text hx (.inr ⟨[], by simp, rfl⟩ : Closing ['\x7d'])
    rw [List.append_assoc] at bound
    have single : writtenMembers [] final = final.text := by simp [writtenMembers]
    rw [single, splitOn_of_not_mem plain, pieceNames_cons (by rw [bound]; exact final.bound_ne_nil), bound]
    rfl
  | cons m leading ih =>
    have split : x ++ (writtenMembers (m :: leading) final ++ ['\x7d']) =
        (x ++ m.text) ++ ',' :: ([] ++ (writtenMembers leading final ++ ['\x7d'])) := by
      simp [writtenMembers_cons]
    have plain : ',' ∉ x ++ m.text := by simp [hx.comma_not_mem, m.comma_not_mem]
    have bound : boundName (trim (x ++ m.text)) = m.bound := by
      simpa using m.boundName_text hx (.inl rfl)
    rw [split, splitOn_append_cons plain, pieceNames_cons (by rw [bound]; exact m.bound_ne_nil), bound,
      ih (.inl rfl)]
    rfl

/-! ## Documents of one statement -/

theorem Members.isClauseChar_of_mem (b : Members) : ∀ e ∈ b.text, isClauseChar e := by
  intro e he
  simp only [Members.text, List.mem_cons, List.mem_append, List.not_mem_nil, or_false] at he
  rcases he with rfl | he | rfl
  · decide
  · exact isClauseChar_of_mem_members b.leading b.final e he
  · decide

theorem Members.head_visible (b : Members) : ∀ e ∈ b.text.head?, ¬ isBlank e := by
  simp [Members.text]
  decide

theorem Members.importNames_text (b : Members) : importNames b.text = b.names := by
  have last : ∀ e ∈ b.text.getLast?, ¬ isBlank e := by
    intro e he
    rw [Members.text, ← List.cons_append, List.getLast?_concat] at he
    obtain rfl : '\x7d' = e := Option.some.inj he
    decide
  rw [importNames_eq_pieceNames, trim_eq_self b.head_visible last]
  exact pieceNames_members (x := ['\x7b']) (.inr ⟨[], by simp, rfl⟩)

/-- Nothing before the first member is cut. -/
theorem quiet_list_lead (gap : Gap) :
    (spaced "from".toList).Quiet [] ("import".toList ++ gap.text ++ ['\x7b']) t := by
  have keyword : ∀ e ∈ "import".toList, ¬ isBlank e :=
    fun e he => not_isBlank_of_isNameChar (isNameChar_of_mem_import e he)
  have brace : ∀ e ∈ ['\x7b'], ¬ isBlank e := by simpa using by decide
  refine .append (.append (quiet_spaced_visible keyword) ?_) (quiet_spaced_visible brace)
  exact quiet_before_word gap.toRun (by simp; decide)

theorem splitImport_of_not_cut (f : Frame) (h : ∀ m ∈ b.list, m.cut = none) :
    splitImport (f.statement b.text) = (b.text, f.specifier.text) := by
  have split : "import".toList ++ f.gap.text ++ b.text = ("import".toList ++ f.gap.text ++ ['\x7b']) ++
      (writtenMembers b.leading b.final ++ ['\x7d']) := by
    simp [Members.text]
  have brace : ∀ e ∈ ['\x7d'], ¬ isBlank e := by simpa using by decide
  have quiet : (spaced "from".toList).Quiet [] ("import".toList ++ f.gap.text ++ b.text)
      (f.gap'.text ++ "from".toList ++ f.gap''.text ++ (f.quoted ++ [])) := by
    rw [split]
    exact .append (quiet_list_lead f.gap) (.append (quiet_members h) (quiet_spaced_visible brace))
  simpa using splitImport_append_of_quiet f b.head_visible quiet

/-- The names of a cut list are those before the cut. -/
theorem CutIn.importNames_eq {members : Text} (h : CutIn pre members t x y left) :
    importNames ('\x7b' :: x) = left := by
  have brace : ∀ e ∈ ('\x7b' :: x).head?, ¬ isBlank e := by
    simp
    decide
  have last : ∀ e ∈ ('\x7b' :: x).getLast?, ¬ isBlank e := by
    intro e he
    rcases List.eq_nil_or_concat x with rfl | ⟨u, d, rfl⟩
    · obtain rfl : '\x7b' = e := by simpa using he
      decide
    · refine h.last_visible e ?_
      rw [List.concat_eq_append] at he ⊢
      rw [← List.cons_append, List.getLast?_concat] at he
      rwa [List.getLast?_concat]
  rw [importNames_eq_pieceNames, trim_eq_self brace last]
  exact h.names_eq ['\x7b'] (.inr ⟨[], by simp, rfl⟩)

/-- What stands behind the cut, up to the next one, is read as a module that is no file. -/
theorem CutIn.exists_source {pre' members : Text} (h : CutIn pre' members ('\x7d' :: t) x y left)
    (hfrom : ∀ pre, (spaced "from".toList).Starts pre t) :
    ∃ c s, specifier (trim (((spaced "from".toList).piecesBehind pre (y ++ '\x7d' :: t)).headD [])) =
      c :: s ∧ (c = 'a' ∨ c = ',' ∨ c = '\x7d') ∧ isLocal (c :: s) = false := by
  obtain ⟨c, s, hhead, hc⟩ := h.head
  have visible : ¬ isBlank c := by rcases hc with rfl | rfl | rfl <;> decide
  have nodot : c ≠ '.' := by rcases hc with rfl | rfl | rfl <;> decide
  obtain ⟨z, -, hpiece⟩ := exists_headD_piecesBehind
    (quiet_spaced_visible (by simpa using visible) : (spaced "from".toList).Quiet pre [c] s)
  have piece : ((spaced "from".toList).piecesBehind pre (y ++ '\x7d' :: t)).headD [] = c :: z := by
    rw [hhead]
    exact hpiece
  -- The piece ends before the specifier, so it holds no quotation mark.
  have within : c :: z <+: y ++ ['\x7d'] := by
    have split : y ++ '\x7d' :: t = (y ++ ['\x7d']) ++ t := by simp
    rw [← piece, split]
    exact headD_piecesBehind_prefix (by simp)
      (fun e he => not_isBlank_of_isNameChar (isNameChar_of_mem_from e he)) (hfrom _)
  have unquoted : ∀ e ∈ trim (c :: z), ¬ isQuote e := by
    intro e he
    rcases List.mem_append.mp (within.subset (mem_of_mem_trim he)) with hmem | hmem
    · exact (not_mark_of_isClauseChar (h.isClauseChar_behind e hmem)).1
    · rw [List.mem_singleton.mp hmem]
      decide
  obtain ⟨s', htrim⟩ := exists_trim_cons visible z
  have nofile : isLocal ([c] ++ s') = isLocal [c] := isLocal_append visible nodot [] s'
  refine ⟨c, s', ?_, hc, nofile.trans ?_⟩
  · rw [piece, specifier_of_unquoted unquoted, htrim]
  · rcases hc with rfl | rfl | rfl <;> decide

/-- Where a member is cut, the names end there, and the text behind the cut is read as a module that is
no file. -/
theorem splitImport_of_cut (f : Frame) (h : ∃ m ∈ b.list, m.cut ≠ none) :
    importNames (splitImport (f.statement b.text)).1 = namesToCut b.list ∧
      ∃ c s, (splitImport (f.statement b.text)).2 = c :: s ∧ (c = 'a' ∨ c = ',' ∨ c = '\x7d') ∧
        isLocal (c :: s) = false := by
  have whole : f.statement b.text = ("import".toList ++ f.gap.text ++ ['\x7b']) ++
      (writtenMembers b.leading b.final ++ '\x7d' :: (f.gap'.text ++ "from".toList ++ f.gap''.text ++
        f.quoted)) := by
    unfold Frame.statement Frame.opening Members.text
    simp
  obtain ⟨x, y, hxy⟩ : ∃ x y, CutIn ([] ++ ("import".toList ++ f.gap.text ++ ['\x7b']))
      (writtenMembers b.leading b.final) ('\x7d' :: (f.gap'.text ++ "from".toList ++ f.gap''.text ++
        f.quoted)) x y (namesToCut b.list) := exists_cutIn h
  obtain ⟨pre, pieces⟩ := (hxy.cutsAt.behind (quiet_list_lead f.gap)).pieces
  rw [← whole, List.append_assoc _ ['\x7b'] x] at pieces
  have brace : ∀ e ∈ ('\x7b' :: x).head?, ¬ isBlank e := by
    simp
    decide
  have keyword : ∀ pre, (spaced "from".toList).Starts pre
      (f.gap'.text ++ "from".toList ++ f.gap''.text ++ f.quoted) := fun pre =>
    starts_spaced.mpr ⟨f.gap'.text, f.gap''.text, f.quoted, f.gap'.ne_nil, f.gap''.ne_nil,
      f.gap'.isBlank_of_isIndent, f.gap''.isBlank_of_isIndent, by simp⟩
  rw [splitImport_of_pieces f.gap brace pieces]
  exact ⟨hxy.importNames_eq, hxy.exists_source keyword⟩

/-- The document is recognized as one statement, with the module and the names it is written with. -/
def ReadAsWritten (f : Frame) (b : Members) (d : Document) : Prop :=
  ∃ s, Grammar.script.recognize d = [s] ∧ s.source = f.specifier.text ∧ s.names = b.names ∧
    (s.isExternal = false ↔
      f.specifier.text.startsWith ['.', '/'] ∨ f.specifier.text.startsWith ['/'])

/-- A list in which `from` may be a name is read as it is written exactly when no member is cut. In every
case there is one statement, whose names are those up to the cut; behind a cut the module is a library
that starts with `as`, a comma or a brace. -/
theorem recognize_members (f : Frame) (b : Members) (semicolon : Bool)
    (hlanguage : d.language = "javascript" ∨ d.language = "typescript")
    (htext : d.text = f.statement b.text ++ if semicolon then [';'] else []) :
    Grammar.ofTag? d.language = some .script ∧
      (ReadAsWritten f b d ↔ ∀ m ∈ b.list, m.cut = none) ∧
      ∃ s, Grammar.script.recognize d = [s] ∧ s.offset = 0 ∧ s.line = 0 ∧
        s.names = namesToCut b.list ∧ ((∃ m ∈ b.list, m.cut ≠ none) → s.isExternal ∧
          ∃ c, s.source.head? = some c ∧ (c = 'a' ∨ c = ',' ∨ c = '\x7d')) := by
  have ending : ∀ e ∈ (if semicolon then [';'] else []), e = ';' := by
    cases semicolon <;> simp
  obtain ⟨s, hs, hoffset, hline, hsource, hnames, hexternal⟩ :=
    f.exists_recognize_eq b.isClauseChar_of_mem ending htext
  have only : ∀ s', Grammar.script.recognize d = [s'] → s' = s := by
    intro s' hs'
    exact (List.singleton_inj.mp (hs.symm.trans hs')).symm
  refine ⟨Grammar.ofTag?_script hlanguage, ?_⟩
  by_cases hcut : ∃ m ∈ b.list, m.cut ≠ none
  · obtain ⟨names, c, source, hsplit, hc, nofile⟩ := splitImport_of_cut f hcut
    rw [names] at hnames
    rw [hsplit] at hsource hexternal
    have hnot : ¬ ∀ m ∈ b.list, m.cut = none := by
      obtain ⟨m, hm, hne⟩ := hcut
      exact fun h => hne (h m hm)
    refine ⟨iff_of_false ?_ hnot, s, hs, hoffset, hline, hnames, fun _ => ⟨?_, c, ?_, hc⟩⟩
    · rintro ⟨s', hs', -, hnames', -⟩
      rw [only s' hs', hnames] at hnames'
      exact hnot ((namesToCut_eq_iff b.list).mp hnames')
    · rw [hexternal, nofile]
      rfl
    · rw [hsource]
      rfl
  · have hall : ∀ m ∈ b.list, m.cut = none := by simpa using hcut
    rw [splitImport_of_not_cut f hall] at hsource hnames hexternal
    rw [b.importNames_text] at hnames
    have names : b.names = namesToCut b.list := ((namesToCut_eq_iff b.list).mpr hall).symm
    refine ⟨iff_of_true ⟨s, hs, hsource, hnames, ?_⟩ hall, s, hs, hoffset, hline, hnames.trans names,
      fun h => absurd h hcut⟩
    rw [hexternal, isLocal_specifier, Bool.not_eq_false', Bool.or_eq_true]

/-- A frame with single spaces. -/
def spacedFrame (specifier : Specifier) : Frame where
  gap := .space isIndent_space
  gap' := .space isIndent_space
  gap'' := .space isIndent_space
  specifier := specifier
  mark := '\''
  isQuote_mark := isQuote_apostrophe

/-- The list `{ a, b as from }`. -/
def aliasMembers : Members where
  leading := [⟨(Run1.space isIndent_space).toRun, ⟨.of "a".toList, by decide⟩, none, .of [] List.all_nil⟩]
  final := {
    before := (Run1.space isIndent_space).toRun
    name := ⟨.of "b".toList, by decide⟩
    renamed := some (.space isIndent_space, .space isIndent_space, ⟨.of "from".toList, by decide⟩)
    behind := (Run1.space isIndent_space).toRun }

/-- Behind a cut before the alias neither the local module nor the local name is left. -/
theorem names_to_cut_before_alias : ∃ s, Grammar.script.recognize
    ⟨"import \x7b a, b as from \x7d from './m';".toList, "typescript", none⟩ = [s] ∧
      s.names = [['a'], "b as".toList] ∧ s.isExternal := by
  have htext : "import \x7b a, b as from \x7d from './m';".toList =
      (spacedFrame (.of ['.', '/', 'm'])).statement aliasMembers.text ++ [';'] := by decide
  obtain ⟨-, -, s, hs, -, -, hnames, hcut⟩ := recognize_members (d := ⟨_, "typescript", none⟩)
    (spacedFrame (.of ['.', '/', 'm'])) aliasMembers true (.inr rfl) htext
  refine ⟨s, hs, hnames.trans (by decide), (hcut ⟨aliasMembers.final, ?_, by decide⟩).1⟩
  exact List.mem_append_right _ (List.mem_singleton_self _)

/-- A statement with a member `from` that is not read as it is written: the brace behind the name is taken
for the module. -/
theorem exists_members_not_read : ∃ f b d, d.language = "javascript" ∧
    d.text = "import \x7b from \x7d from 'rxjs'".toList ∧ d.text = f.statement b.text ∧
      (∃ m ∈ b.list, m.name.text = "from".toList) ∧ ¬ ReadAsWritten f b d := by
  refine ⟨spacedFrame (.of "rxjs".toList), ⟨[], ⟨(Run1.space isIndent_space).toRun,
    ⟨.of "from".toList, by decide⟩, none, (Run1.space isIndent_space).toRun⟩⟩,
    ⟨"import \x7b from \x7d from 'rxjs'".toList, "javascript", none⟩, rfl, rfl, by decide,
    ⟨_, List.mem_singleton_self _, rfl⟩, ?_⟩
  rintro ⟨s, hs, hsource, -⟩
  have sources : (Grammar.script.recognize ⟨"import \x7b from \x7d from 'rxjs'".toList, "javascript",
      none⟩).map (·.source) = [['\x7d']] := by decide +kernel
  rw [hs, List.map_singleton, hsource] at sources
  exact absurd sources (by decide)

end Kudos.Script
