import Mathlib
import Kudos.Proofs.Diff

/-!
# What a line difference replaces

A difference is a list of replacements (`edits_describe`): each takes a run of old lines away and puts a run
of new lines in its place, one of the two runs may be empty, and what lies between neighbours is kept. The
lines outside all runs are the same in both texts.
-/

namespace Kudos.Diff

variable {old new old' new' kept lines lines' : List Text}

/-! ## Runs of lines -/

/-- Lines that follow each other: how many come before them and how many they are. -/
structure Span where
  start : Nat
  size : Nat

/-- The number of lines before its end. -/
def Span.stop (s : Span) : Nat :=
  s.start + s.size

/-- The lines of a span, when `n` lines come before the given ones. -/
def Span.inside (s : Span) (n : Nat) (lines : List Text) : List Text :=
  (lines.drop (s.start - n)).take s.size

/-- Whether a line lies outside of a span. -/
def Span.misses (s : Span) (i : Nat) : Bool :=
  i < s.start || s.stop ≤ i

/-- The lines outside of all spans, when `n` lines come before the given ones. -/
def outside (n : Nat) (spans : List Span) (lines : List Text) : List Text :=
  ((lines.zipIdx n).filter fun p => spans.all fun s => s.misses p.2).map (·.1)

section

variable {s : Span} {spans spans' : List Span} {n : Nat}

theorem Span.misses_iff {i : Nat} : s.misses i ↔ i < s.start ∨ s.stop ≤ i := by
  simp [misses]

theorem Span.inside_append_left (hstop : s.stop ≤ n + lines.length) (hstart : n ≤ s.start) :
    s.inside n (lines ++ lines') = s.inside n lines := by
  rw [stop] at hstop
  rw [inside, inside, List.drop_append_of_le_length (by omega), List.take_append_of_le_length]
  rw [List.length_drop]
  omega

theorem Span.inside_append_right (hstart : n + lines.length ≤ s.start) :
    s.inside n (lines ++ lines') = s.inside (n + lines.length) lines' := by
  have shift : s.start - n = lines.length + (s.start - (n + lines.length)) := by omega
  rw [inside, inside, shift, ← List.drop_drop, List.drop_left]

theorem outside_append (n : Nat) (spans : List Span) (lines lines' : List Text) :
    outside n spans (lines ++ lines') =
      outside n spans lines ++ outside (n + lines.length) spans lines' := by
  rw [outside, List.zipIdx_append, List.filter_append, List.map_append, outside, outside]

/-- Only the spans that meet the lines matter. -/
theorem outside_congr (h : ∀ i, n ≤ i → i < n + lines.length →
      ((∀ s ∈ spans, s.misses i) ↔ ∀ s ∈ spans', s.misses i)) :
    outside n spans lines = outside n spans' lines := by
  rw [outside, outside]
  congr 1
  refine List.filter_congr fun p hp => ?_
  have hle := List.le_snd_of_mem_zipIdx hp
  have hlt := List.snd_lt_add_of_mem_zipIdx hp
  have same := h p.2 hle (by omega)
  rw [Bool.eq_iff_iff, List.all_eq_true, List.all_eq_true]
  exact same

theorem outside_nil (n : Nat) (lines : List Text) : outside n [] lines = lines := by
  simp [outside]

theorem outside_sublist (n : Nat) (spans : List Span) (lines : List Text) :
    (outside n spans lines).Sublist lines := by
  have sub := (List.filter_sublist (p := fun p : Text × Nat => spans.all fun s => s.misses p.2)
    (l := lines.zipIdx n)).map Prod.fst
  rwa [List.zipIdx_map_fst] at sub

/-- Of lines that one span covers none lies outside. -/
theorem outside_whole (n : Nat) (lines : List Text) : outside n [⟨n, lines.length⟩] lines = [] := by
  rw [outside, List.map_eq_nil_iff, List.filter_eq_nil_iff]
  intro p hp hmiss
  have hle := List.le_snd_of_mem_zipIdx hp
  have hlt := List.snd_lt_add_of_mem_zipIdx hp
  simp only [List.all_cons, List.all_nil, Bool.and_true, Span.misses_iff, Span.stop] at hmiss
  omega

/-- Spans that end before the lines cover none of them. -/
theorem outside_of_stop_le (h : ∀ s ∈ spans, s.stop ≤ n) :
    outside n (spans ++ spans') lines = outside n spans' lines := by
  refine outside_congr fun i hle _ => ?_
  refine ⟨fun hmiss s hs => hmiss s (List.mem_append_right _ hs), fun hmiss s hs => ?_⟩
  rcases List.mem_append.mp hs with hs | hs
  · have := h s hs
    exact Span.misses_iff.mpr (.inr (by omega))
  · exact hmiss s hs

/-- Nor do spans that start behind them. -/
theorem outside_of_le_start (h : ∀ s ∈ spans', n + lines.length ≤ s.start) :
    outside n (spans ++ spans') lines = outside n spans lines := by
  refine outside_congr fun i _ hlt => ?_
  refine ⟨fun hmiss s hs => hmiss s (List.mem_append_left _ hs), fun hmiss s hs => ?_⟩
  rcases List.mem_append.mp hs with hs | hs
  · exact hmiss s hs
  · have := h s hs
    exact Span.misses_iff.mpr (.inl (by omega))

/-- Lines between the spans of the lines before them and those of the lines behind them stay. -/
theorem outside_between (hbefore : ∀ s ∈ spans, s.stop ≤ n + lines.length)
    (hbehind : ∀ s ∈ spans', n + lines.length + kept.length ≤ s.start) :
    outside n (spans ++ spans') (lines ++ (kept ++ lines')) =
      outside n spans lines ++ (kept ++ outside (n + lines.length + kept.length) spans' lines') := by
  have before : outside n (spans ++ spans') lines = outside n spans lines := by
    refine outside_of_le_start fun s hs => ?_
    have := hbehind s hs
    omega
  have between : outside (n + lines.length) (spans ++ spans') kept = kept := by
    rw [outside_of_le_start hbehind, ← List.append_nil spans, outside_of_stop_le hbefore, outside_nil]
  have behind : outside (n + lines.length + kept.length) (spans ++ spans') lines' =
      outside (n + lines.length + kept.length) spans' lines' := by
    refine outside_of_stop_le fun s hs => ?_
    have := hbefore s hs
    omega
  rw [outside_append, outside_append, before, between, behind]

end

/-! ## Replacements -/

/-- Old lines and the new lines that take their place. -/
structure Replacement where
  removed : Span
  inserted : Span

/-- The chunk that makes the replacement, when `n` lines come before the new ones. -/
def Replacement.edit (r : Replacement) (n : Nat) (new : List Text) : Edit :=
  ⟨(r.inserted.inside n new).flatten, r.inserted.start⟩

/-- Whether replacements lead from old lines, of which `o` come before, to new ones, of which `n` come
before. -/
structure Leads (o : Nat) (old : List Text) (n : Nat) (new : List Text) (rs : List Replacement) :
    Prop where
  removed_mem : ∀ r ∈ rs, o ≤ r.removed.start ∧ r.removed.stop ≤ o + old.length
  inserted_mem : ∀ r ∈ rs, n ≤ r.inserted.start ∧ r.inserted.stop ≤ n + new.length
  /-- At least one line lies between two replacements, in both texts. -/
  apart : rs.Pairwise fun r r' =>
    r.removed.stop < r'.removed.start ∧ r.inserted.stop < r'.inserted.start
  /-- None of them is without effect. -/
  changes : ∀ r ∈ rs, r.removed.size ≠ 0 ∨ r.inserted.size ≠ 0
  /-- What is not replaced is the same in both texts. -/
  kept : outside n (rs.map (·.inserted)) new = outside o (rs.map (·.removed)) old

section

variable {o n : Nat} {r : Replacement} {rs rs' : List Replacement}

theorem leads_nil : Leads o [] n [] [] where
  removed_mem := by simp
  inserted_mem := by simp
  apart := List.Pairwise.nil
  changes := by simp
  kept := rfl

/-- All lines can be replaced at once. -/
theorem leads_whole (h : old ≠ [] ∨ new ≠ []) :
    Leads o old n new [⟨⟨o, old.length⟩, ⟨n, new.length⟩⟩] where
  removed_mem := by simp [Span.stop]
  inserted_mem := by simp [Span.stop]
  apart := List.pairwise_singleton _ _
  changes := by simpa using h
  kept := by
    rw [List.map_singleton, List.map_singleton, outside_whole, outside_whole]

/-- Replacements before a run of lines that is kept and those behind it lead from the whole to the
whole. -/
theorem Leads.append (h : Leads o old n new rs) (hkept : kept ≠ [])
    (h' : Leads (o + old.length + kept.length) old' (n + new.length + kept.length) new' rs') :
    Leads o (old ++ (kept ++ old')) n (new ++ (kept ++ new')) (rs ++ rs') := by
  have hpos := List.length_pos_iff.mpr hkept
  refine ⟨fun r hr => ?_, fun r hr => ?_, ?_, fun r hr => ?_, ?_⟩
  · simp only [List.length_append]
    rcases List.mem_append.mp hr with hr | hr
    · have := h.removed_mem r hr
      omega
    · have := h'.removed_mem r hr
      omega
  · simp only [List.length_append]
    rcases List.mem_append.mp hr with hr | hr
    · have := h.inserted_mem r hr
      omega
    · have := h'.inserted_mem r hr
      omega
  · refine List.pairwise_append.mpr ⟨h.apart, h'.apart, fun r hr r' hr' => ?_⟩
    have hold := h.removed_mem r hr
    have hnew := h.inserted_mem r hr
    have hold' := h'.removed_mem r' hr'
    have hnew' := h'.inserted_mem r' hr'
    omega
  · rcases List.mem_append.mp hr with hr | hr
    · exact h.changes r hr
    · exact h'.changes r hr
  · have inserted : ∀ s ∈ rs.map (·.inserted), s.stop ≤ n + new.length :=
      List.forall_mem_map.mpr fun r hr => (h.inserted_mem r hr).2
    have inserted' : ∀ s ∈ rs'.map (·.inserted), n + new.length + kept.length ≤ s.start :=
      List.forall_mem_map.mpr fun r hr => (h'.inserted_mem r hr).1
    have removed : ∀ s ∈ rs.map (·.removed), s.stop ≤ o + old.length :=
      List.forall_mem_map.mpr fun r hr => (h.removed_mem r hr).2
    have removed' : ∀ s ∈ rs'.map (·.removed), o + old.length + kept.length ≤ s.start :=
      List.forall_mem_map.mpr fun r hr => (h'.removed_mem r hr).1
    rw [List.map_append, List.map_append, outside_between inserted inserted',
      outside_between removed removed', h.kept, h'.kept]

theorem Leads.edits_append (h : Leads o old n new rs)
    (h' : Leads (o + old.length + kept.length) old' (n + new.length + kept.length) new' rs') :
    (rs ++ rs').map (·.edit n (new ++ (kept ++ new'))) =
      rs.map (·.edit n new) ++ rs'.map (·.edit (n + new.length + kept.length) new') := by
  rw [List.map_append]
  congr 1
  · refine List.map_congr_left fun r hr => ?_
    obtain ⟨hstart, hstop⟩ := h.inserted_mem r hr
    rw [Replacement.edit, Span.inside_append_left hstop hstart, Replacement.edit]
  · refine List.map_congr_left fun r hr => ?_
    obtain ⟨hstart, -⟩ := h'.inserted_mem r hr
    have shift : n + (new ++ kept).length = n + new.length + kept.length := by
      rw [List.length_append]
      omega
    rw [Replacement.edit, ← List.append_assoc, Span.inside_append_right (by omega), shift,
      Replacement.edit]

/-! ## Differences -/

theorem exists_leads_gap (o : Nat) (old new : List Text) (n : Nat) :
    ∃ rs, gap old new n = rs.map (·.edit n new) ∧ Leads o old n new rs := by
  by_cases h : old = [] ∧ new = []
  · obtain ⟨rfl, rfl⟩ := h
    exact ⟨[], rfl, leads_nil⟩
  · refine ⟨[⟨⟨o, old.length⟩, ⟨n, new.length⟩⟩], ?_, leads_whole (not_and_or.mp h)⟩
    have some : (old.isEmpty && new.isEmpty) = false := by
      rw [Bool.and_eq_false_iff]
      rcases not_and_or.mp h with h | h
      · exact .inl (by simpa using h)
      · exact .inr (by simpa using h)
    simp [gap, some, Replacement.edit, Span.inside]

/-- The longest shared run is kept, and what the search finds on both sides of it are the replacements. -/
theorem exists_leads (fuel o : Nat) (old new : List Text) (n : Nat) :
    ∃ rs, editsFrom fuel old new n = rs.map (·.edit n new) ∧ Leads o old n new rs := by
  induction fuel generalizing o old new n with
  | zero => exact exists_leads_gap o old new n
  | succ fuel ih =>
    rw [editsFrom]
    by_cases hsize : (longestRun old new).size = 0
    · rw [if_pos hsize]
      exact exists_leads_gap o old new n
    · rw [if_neg hsize]
      obtain ⟨hold, hnew, hshared⟩ := (longestRun_spec old new).1
      set run := longestRun old new
      set kept := (new.drop run.new).take run.size with hkept
      have length_kept : kept.length = run.size := by
        rw [hkept, List.length_take, List.length_drop]
        omega
      have split_old : old = old.take run.old ++ (kept ++ old.drop (run.old + run.size)) := by
        rw [← hshared, ← List.drop_drop, List.take_append_drop, List.take_append_drop]
      have split_new : new = new.take run.new ++ (kept ++ new.drop (run.new + run.size)) := by
        rw [hkept, ← List.drop_drop, List.take_append_drop, List.take_append_drop]
      have length_old : (old.take run.old).length = run.old := List.length_take_of_le (by omega)
      have length_new : (new.take run.new).length = run.new := List.length_take_of_le (by omega)
      obtain ⟨rs, hedits, hleads⟩ := ih o (old.take run.old) (new.take run.new) n
      obtain ⟨rs', hedits', hleads'⟩ := ih (o + run.old + run.size) (old.drop (run.old + run.size))
        (new.drop (run.new + run.size)) (n + run.new + run.size)
      have hne : kept ≠ [] := by
        rw [← List.length_pos_iff, length_kept]
        omega
      have behind : Leads (o + (old.take run.old).length + kept.length) (old.drop (run.old + run.size))
          (n + (new.take run.new).length + kept.length) (new.drop (run.new + run.size)) rs' := by
        rwa [length_old, length_new, length_kept]
      refine ⟨rs ++ rs', ?_, ?_⟩
      · have edits := hleads.edits_append behind
        rw [← split_new, length_new, length_kept] at edits
        rw [hedits, hedits', edits]
      · have whole := hleads.append hne behind
        rwa [← split_old, ← split_new] at whole

end

theorem ne_nil_of_mem_splitLines {t line : Text} (h : line ∈ Text.splitLines t) : line ≠ [] := by
  fun_induction Text.splitLines t generalizing line with
  | case1 => simp at h
  | case2 rest ih =>
    rcases List.mem_cons.mp h with rfl | h
    · simp
    · exact ih h
  | case3 c rest _ hc ih =>
    rcases List.mem_cons.mp h with rfl | h
    · simp
    · exact ih h
  | case4 c rest _ hc ih =>
    cases hlines : Text.splitLines rest with
    | nil =>
      rw [hlines, Text.prependTo, List.mem_singleton] at h
      simp [h]
    | cons first lines =>
      rw [hlines, Text.prependTo] at h
      rcases List.mem_cons.mp h with rfl | h
      · simp
      · exact ih (hlines ▸ List.mem_cons_of_mem _ h)

theorem text_edit_eq_nil {r : Replacement} {new : Text} (h : (r.edit 0 (Text.splitLines new)).text = [])
    (hstop : r.inserted.stop ≤ (Text.splitLines new).length) : r.inserted.size = 0 := by
  by_contra hsize
  have hne : r.inserted.inside 0 (Text.splitLines new) ≠ [] := by
    rw [Span.stop] at hstop
    rw [← List.length_pos_iff, Span.inside, List.length_take, List.length_drop]
    omega
  obtain ⟨line, hline⟩ := List.exists_mem_of_ne_nil _ hne
  have hempty : line = [] := List.flatten_eq_nil_iff.mp h line hline
  exact ne_nil_of_mem_splitLines (List.mem_of_mem_drop (List.mem_of_mem_take hline)) hempty

/-- A difference is empty exactly if the texts are equal. It inserts runs of new lines at places in strictly
ascending order, with at least one line between two runs; the lines outside of the runs are old lines in
their order, those outside of the removed ones; and a chunk without text only removes lines. -/
theorem edits_describe (old new : Text) :
    (edits old new = [] ↔ old = new) ∧
      (edits old new).Pairwise (fun e e' => e.startLine < e'.startLine) ∧
      ∃ rs : List Replacement,
        edits old new = rs.map (·.edit 0 (Text.splitLines new)) ∧
        Leads 0 (Text.splitLines old) 0 (Text.splitLines new) rs ∧
        (outside 0 (rs.map (·.inserted)) (Text.splitLines new)).Sublist (Text.splitLines old) ∧
        ∀ r ∈ rs, (r.edit 0 (Text.splitLines new)).text = [] →
          r.inserted.size = 0 ∧ r.removed.size ≠ 0 := by
  obtain ⟨rs, hedits, hleads⟩ := exists_leads (Text.splitLines old).length 0 (Text.splitLines old)
    (Text.splitLines new) 0
  refine ⟨edits_eq_nil_iff, ?_, rs, hedits, hleads, ?_, fun r hr htext => ?_⟩
  · rw [edits, hedits, List.pairwise_map]
    refine hleads.apart.imp fun {r r'} h => ?_
    have hlt := h.2
    rw [Span.stop] at hlt
    simp only [Replacement.edit]
    omega
  · rw [hleads.kept]
    exact outside_sublist _ _ _
  · have hstop := (hleads.inserted_mem r hr).2
    rw [Nat.zero_add] at hstop
    have hsize := text_edit_eq_nil htext hstop
    have hchanges := hleads.changes r hr
    omega

example : edits "a\nb\nc\n".toList "a\nc\nd\n".toList = [⟨[], 1⟩, ⟨['d', '\n'], 2⟩] := by
  decide +kernel

end Kudos.Diff
