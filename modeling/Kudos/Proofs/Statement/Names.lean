import Mathlib
import Kudos.Grammar
import Kudos.Proofs.Pattern.Separator

/-!
# What statements bind and name

A statement is read off whatever text its pattern matches, well written or not. The names it binds are
names all the same (`isName_of_mem_recognize`): each is a trimmed part of an entry of a name list, and
entries hold no commas. A statement that counts as an import from a library never names a file of the
same project (`not_isLocal_of_isExternal`).
-/

namespace Kudos

variable {t u piece name entry list clause : Text} {s : Statement} {d : Document} {n : Nat}

/-- Whether a text is fit to be bound: it is not empty, no white space stands at its ends, and it holds
no comma. -/
structure IsName (t : Text) : Prop where
  ne_nil : t ≠ []
  first_visible : ∀ c ∈ t.head?, ¬ Text.isBlank c
  last_visible : ∀ c ∈ t.getLast?, ¬ Text.isBlank c
  comma_not_mem : ',' ∉ t

namespace Text

/-- What is trimmed shows at both ends. -/
theorem trim_visible (t : Text) :
    (∀ c ∈ (trim t).head?, ¬ isBlank c) ∧ ∀ c ∈ (trim t).getLast?, ¬ isBlank c := by
  obtain ⟨x, u, rfl, hx, hu⟩ := exists_run isBlank t
  obtain ⟨v, y, rfl, hy, hv⟩ := exists_last_run isBlank u
  have head : ∀ c ∈ v.head?, ¬ isBlank c := by
    intro c hc
    refine hu c ?_
    rw [Option.mem_def] at hc ⊢
    rw [List.head?_append, hc]
    rfl
  rw [trim_blank_append hx, trim_append_blank hy, trim_eq_self head hv]
  exact ⟨head, hv⟩

end Text

open Text Pattern

theorem isName_trim (hne : trim t ≠ []) (hcomma : ',' ∉ t) : IsName (trim t) where
  ne_nil := hne
  first_visible := (trim_visible t).1
  last_visible := (trim_visible t).2
  comma_not_mem := fun hmem => hcomma (mem_of_mem_trim hmem)

namespace Pattern

theorem subset_of_mem_between {ms : List Match} (h : piece ∈ between t n ms) : piece ⊆ t := by
  induction ms generalizing t n with
  | nil =>
    rw [between, List.mem_singleton] at h
    exact h ▸ List.Subset.refl _
  | cons m ms ih =>
    rw [between] at h
    rcases List.mem_cons.mp h with rfl | h
    · exact List.take_subset _ _
    · exact List.Subset.trans (ih h) (List.drop_subset _ _)

/-- The pieces between matches hold characters of the text. -/
theorem subset_of_mem_pieces {a : Pattern} (h : piece ∈ a.pieces t) : piece ⊆ t :=
  subset_of_mem_between h

end Pattern

namespace NameList

/-- The entries of a name list hold none of the commas between them. -/
theorem comma_not_mem_of_mem_entries (h : entry ∈ entries t) : ',' ∉ entry := by
  have cut : entries t = (splitOn ',' t).map trim := by
    change ((loose ',').piecesBehind [] t).map trim = _
    exact map_trim_piecesBehind_loose (by decide)
  rw [cut] at h
  obtain ⟨piece, hpiece, rfl⟩ := List.mem_map.mp h
  exact fun hmem => not_mem_of_mem_splitOn hpiece (mem_of_mem_trim hmem)

end NameList

/-! ## Python -/

namespace Python

/-- An entry binds a trimmed part of itself. -/
theorem exists_boundName_eq (entry : Text) : ∃ u, u ⊆ entry ∧ boundName entry = trim u := by
  unfold boundName
  split
  · next _ renamed _ hpieces =>
    refine ⟨renamed, subset_of_mem_pieces (a := NameList.asName) ?_, rfl⟩
    have hpieces : NameList.asName.pieces entry = _ := hpieces
    simp [hpieces]
  · split
    · refine ⟨_, ?_, rfl⟩
      rcases List.eq_nil_or_concat (importKeyword.pieces entry) with h | ⟨pieces, piece, h⟩
      · simp [h]
      · have hmem : piece ∈ importKeyword.pieces entry := by simp [h]
        simpa [h] using subset_of_mem_pieces hmem
    · exact ⟨entry, List.Subset.refl _, rfl⟩

theorem isName_of_mem_names (h : name ∈ names t) : IsName name := by
  unfold names at h
  split at h
  · simp at h
  · obtain ⟨hmem, hne⟩ := List.mem_filter.mp h
    obtain ⟨entry, hentry, rfl⟩ := List.mem_map.mp hmem
    obtain ⟨u, hu, hname⟩ := exists_boundName_eq entry
    rw [hname] at hne ⊢
    refine isName_trim (by simpa using hne) fun hcomma => ?_
    exact NameList.comma_not_mem_of_mem_entries hentry (hu hcomma)

/-- A module is a dotted path. -/
theorem isPathChar_of_mem_moduleName : ∀ c ∈ moduleName t, isPathChar c := by
  unfold moduleName
  split
  · next m hm =>
    have here : fromModule.matchHere ([] : Text).getLast? t 0 = some m := hm
    obtain ⟨rest, -, hreads, -⟩ := reads_of_matchHere here
    obtain ⟨_, run, _, _, -, hgroups, hkeyword, hgroup⟩ := reads_append.mp hreads
    obtain ⟨_, gap, _, _, -, rfl, hword, hgap⟩ := reads_append.mp hkeyword
    obtain ⟨-, rfl⟩ := reads_word.mp hword
    obtain ⟨-, -, rfl⟩ := reads_many1.mp hgap
    obtain ⟨_, rfl, hmodule⟩ := reads_group.mp hgroup
    obtain ⟨-, hpath, rfl⟩ := reads_many1.mp hmodule
    rw [Match.groupText, hgroups]
    exact hpath
  · simp

end Python

/-! ## Scripts -/

namespace Script

theorem exists_boundName_eq (entry : Text) : ∃ u, u ⊆ entry ∧ boundName entry = trim u := by
  have first : ∀ (a : Pattern) (t : Text), (a.pieces t).headD [] ⊆ t := by
    intro a t
    cases hpieces : a.pieces t with
    | nil => exact List.nil_subset _
    | cons piece pieces => exact subset_of_mem_pieces (a := a) (by simp [hpieces])
  have second : ∀ (a : Pattern) (t : Text), ∀ piece rest pieces,
      a.pieces t = piece :: rest :: pieces → rest ⊆ t := by
    intro a t piece rest pieces hpieces
    exact subset_of_mem_pieces (a := a) (by simp [hpieces])
  unfold boundName
  split
  · refine ⟨_, List.Subset.trans (first _ _) ?_, rfl⟩
    split
    · next hpieces =>
      refine List.Subset.trans (second _ _ _ _ _ hpieces) ?_
      split
      · next hpieces => exact second _ _ _ _ _ hpieces
      · exact List.Subset.refl _
    · refine List.Subset.trans (first _ _) ?_
      split
      · next hpieces => exact second _ _ _ _ _ hpieces
      · exact List.Subset.refl _
  · exact ⟨entry, List.Subset.refl _, rfl⟩

theorem isName_of_mem_importNames (h : name ∈ importNames clause) : IsName name := by
  obtain ⟨hmem, hne⟩ := List.mem_filter.mp h
  obtain ⟨entry, hentry, rfl⟩ := List.mem_map.mp hmem
  obtain ⟨u, hu, hname⟩ := exists_boundName_eq entry
  rw [hname] at hne ⊢
  refine isName_trim (by simpa using hne) fun hcomma => ?_
  exact NameList.comma_not_mem_of_mem_entries hentry (hu hcomma)

theorem isName_of_mem_requireNames (h : name ∈ requireNames list) : IsName name := by
  obtain ⟨hmem, hne⟩ := List.mem_filter.mp h
  have hne : name ≠ [] := by simpa using hne
  by_cases hcomma : list.contains ','
  · rw [if_pos hcomma] at hmem
    -- All white space of a list with commas is gone.
    have visible : ∀ c ∈ name, ¬ isBlank c := by
      intro c hc
      have hc : c ∈ list.filter fun c => !isBlank c := subset_of_mem_splitOn hmem hc
      simpa using (List.mem_filter.mp hc).2
    exact ⟨hne, fun c hc => visible c (List.mem_of_mem_head? hc),
      fun c hc => visible c (List.mem_of_getLast? hc), not_mem_of_mem_splitOn hmem⟩
  · rw [if_neg hcomma, List.mem_singleton] at hmem
    subst hmem
    exact isName_trim hne fun hmem => hcomma (List.contains_iff_mem.mpr hmem)

/-- A specifier of a file holds a slash. -/
theorem slash_mem_of_isLocal (h : isLocal t) : '/' ∈ t := by
  refine mem_of_mem_trim ?_
  unfold isLocal startsWith at h
  rcases Bool.or_eq_true _ _ |>.mp h with h | h <;>
    exact (List.isPrefixOf_iff_prefix.mp h).subset (by simp)

end Script

namespace Grammar

/-- Whatever a statement binds is a name. -/
theorem isName_of_mem_recognize {g : Grammar} (h : s ∈ g.recognize d) : ∀ name ∈ s.names, IsName name := by
  cases g with
  | python =>
    obtain ⟨m, -, rfl⟩ := List.mem_map.mp h
    exact fun name => Python.isName_of_mem_names
  | script =>
    rcases List.mem_append.mp (List.mem_mergeSort.mp h) with h | h
    · obtain ⟨m, -, rfl⟩ := List.mem_map.mp h
      exact fun name => Script.isName_of_mem_importNames
    · obtain ⟨m, -, rfl⟩ := List.mem_map.mp h
      exact fun name => Script.isName_of_mem_requireNames

/-- A library import names no file of the same project. -/
theorem not_isLocal_of_isExternal {g : Grammar} (h : s ∈ g.recognize d) (hs : s.isExternal) :
    ¬ Script.isLocal s.source := by
  cases g with
  | python =>
    obtain ⟨m, -, rfl⟩ := List.mem_map.mp h
    intro hlocal
    have hpath := Python.isPathChar_of_mem_moduleName _ (Script.slash_mem_of_isLocal hlocal)
    exact absurd hpath (by decide)
  | script =>
    rcases List.mem_append.mp (List.mem_mergeSort.mp h) with h | h <;>
    · obtain ⟨m, -, rfl⟩ := List.mem_map.mp h
      simpa using hs

end Grammar

end Kudos
