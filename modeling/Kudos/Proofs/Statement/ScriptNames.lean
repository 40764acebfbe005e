import Mathlib
import Kudos.Proofs.Pattern.Separator
import Kudos.Proofs.Statement.ScriptLine

/-!
# Names bound by script statements

Reading the names off a written clause gives the local names of its entries, in order: an `import`
clause is cut at its commas, and of each piece the braces and what stands before an alias are dropped
(`importNames_text`). The list of a `require` statement is cut at its commas without its white space
(`requireNames_writtenSlots`).
-/

namespace Kudos.Script

open Text Pattern

variable {pre t x y name gap : Text} {c d : Char}

/-! ## Characters of names -/

theorem not_isBlank_of_isNameChar (h : isNameChar c) : ¬ isBlank c := by
  rcases Bool.or_eq_true _ _ |>.mp h with h | h
  · exact not_isBlank_of_isWord h
  · obtain rfl : c = '$' := by simpa using h
    decide

theorem not_isNameChar_of_isBlank (h : isBlank c) : ¬ isNameChar c :=
  fun hc => not_isBlank_of_isNameChar hc h

theorem not_mem_name (h : ∀ e ∈ name, isNameChar e) (hd : isNameChar d = false) : d ∉ name := by
  intro hmem
  simp [h d hmem] at hd

theorem not_mem_blank (h : ∀ e ∈ gap, isBlank e) (hd : isBlank d = false) : d ∉ gap := by
  intro hmem
  simp [h d hmem] at hd

theorem head_visible_of_names (r : Run1 isNameChar) : ∀ e ∈ (r.text ++ t).head?, ¬ isBlank e :=
  fun e he => not_isBlank_of_isNameChar (r.head e he)

theorem last_visible_of_names (r : Run1 isNameChar) : ∀ e ∈ (t ++ r.text).getLast?, ¬ isBlank e :=
  fun e he => not_isBlank_of_isNameChar (r.last e he)

theorem Name.head_visible (n : Name) : ∀ e ∈ (n.text ++ t).head?, ¬ isBlank e :=
  head_visible_of_names n.toRun1

theorem Name.last_visible (n : Name) : ∀ e ∈ (t ++ n.text).getLast?, ¬ isBlank e :=
  last_visible_of_names n.toRun1

/-! ## Keywords in entries -/

/-- The keywords are written with the characters of names. -/
theorem isNameChar_of_mem_as : ∀ e ∈ "as".toList, isNameChar e := by
  simpa using (by decide : isNameChar 'a' ∧ isNameChar 's')

theorem isNameChar_of_mem_from : ∀ e ∈ "from".toList, isNameChar e := by
  simpa using (by decide : isNameChar 'f' ∧ isNameChar 'r' ∧ isNameChar 'o' ∧ isNameChar 'm')

/-- A name other than `as`, behind characters that no name holds and before such a character, is no
alias keyword. -/
theorem apart_as_of_ne (r : Run1 isNameChar) (hne : r.text ≠ "as".toList)
    (hx : ∀ e ∈ x, ¬ isNameChar e) (hy : ∀ e ∈ y, ¬ isNameChar e) :
    Apart isNameChar "as".toList (x ++ r.text ++ y) := by
  have tail : Apart isNameChar "as".toList (y ++ []) :=
    .skip_append (by simp) isNameChar_of_mem_as hy (.nil (by simp))
  rw [List.append_nil] at tail
  rw [List.append_assoc]
  refine .skip_append (by simp) isNameChar_of_mem_as hx ?_
  refine .name_append (by simp) isNameChar_of_mem_as r.all hne ?_ tail
  cases y with
  | nil => simp
  | cons e y => simpa using hy e (by simp)

theorem apart_as_of_forall (hx : ∀ e ∈ x, ¬ isNameChar e) : Apart isNameChar "as".toList x := by
  have := Apart.skip_append (by simp) isNameChar_of_mem_as hx (Apart.nil (by simp))
  simpa using this

theorem quiet_as_of_apart (hx : Apart isNameChar "as".toList x) (hlast : ∀ e ∈ x.getLast?, ¬ isBlank e) :
    (spaced "as".toList).Quiet [] x [] :=
  quiet_spaced (fun _ => not_isNameChar_of_isBlank) isNameChar_of_mem_as hx hlast (by simp)

theorem aliasPieces_of_quiet (quiet : (spaced "as".toList).Quiet [] x []) :
    NameList.aliasPieces x = [x] :=
  piecesBehind_of_quiet quiet

/-- An entry with an alias is cut into what stands before `as` and what stands behind it. -/
theorem aliasPieces_of_renamed (g g' : Gap) (hx : Apart isNameChar "as".toList x)
    (hxlast : ∀ e ∈ x.getLast?, ¬ isBlank e) (hy : Apart isNameChar "as".toList y)
    (hyhead : ∀ e ∈ y.head?, ¬ isBlank e) (hylast : ∀ e ∈ y.getLast?, ¬ isBlank e) :
    NameList.aliasPieces (x ++ (g.text ++ "as".toList ++ g'.text ++ y)) = [x, y] := by
  change (spaced "as".toList).piecesBehind [] _ = [x, y]
  rw [piecesBehind_spaced (fun _ => not_isNameChar_of_isBlank) (by simp) isNameChar_of_mem_as hx
    hxlast g.ne_nil g'.ne_nil g.isBlank_of_isIndent g'.isBlank_of_isIndent hyhead,
    piecesBehind_of_apart (fun _ => not_isNameChar_of_isBlank) isNameChar_of_mem_as hy hylast]

theorem asName_search_of_renamed (g g' : Gap) :
    (NameList.asName.search (x ++ (g.text ++ "as".toList ++ g'.text ++ y))).isSome := by
  refine search_isSome.mpr ⟨x, _, rfl, starts_spaced.mpr ?_⟩
  exact ⟨g.text, g'.text, y, g.ne_nil, g'.ne_nil, g.isBlank_of_isIndent, g'.isBlank_of_isIndent,
    by simp⟩

theorem asName_search_of_quiet (quiet : (spaced "as".toList).Quiet [] x []) :
    (NameList.asName.search x).isSome = false := by
  rw [Bool.eq_false_iff]
  intro hfound
  obtain ⟨y, z, rfl, hs⟩ := search_isSome.mp hfound
  by_cases hz : z = []
  · subst hz
    obtain ⟨g, _, _, hne, -, -, -, hsplit⟩ := starts_spaced.mp hs
    exact hne (List.append_eq_nil_iff.mp hsplit.symm).1
  · refine quiet y z rfl hz ?_
    rw [List.nil_append, List.append_nil]
    exact hs

/-! ## Braces around entries -/

/-- What can stand before the first entry of a list: nothing, or an opening brace behind white
space. -/
def Opening (x : Text) : Prop :=
  x = [] ∨ ∃ gap, (∀ e ∈ gap, isBlank e) ∧ x = gap ++ ['\x7b']

/-- What can stand behind the last entry of a list: nothing, or a closing brace behind white space. -/
def Closing (y : Text) : Prop :=
  y = [] ∨ ∃ gap, (∀ e ∈ gap, isBlank e) ∧ y = gap ++ ['\x7d']

/-- The name that is left of an entry when what stands before its alias has been dropped. -/
def withoutBraces (name : Text) : Text :=
  let opened :=
    match openBrace.pieces name with
    | _ :: inner :: _ => inner
    | pieces => pieces.headD []
  trim ((closeBrace.pieces opened).headD [])

/-- An entry that has an alias or a brace is read in two steps. -/
theorem boundName_of_marked (h : (NameList.asName.search t).isSome ∨ '\x7b' ∈ t ∨ '\x7d' ∈ t) :
    boundName t = withoutBraces
      (match NameList.aliasPieces t with
      | _ :: renamed :: _ => renamed
      | _ => t) := by
  have marked : ((NameList.asName.search t).isSome || t.contains '\x7b' ||
      t.contains '\x7d') = true := by
    simpa [or_assoc] using h
  rw [boundName, if_pos marked]
  rfl

theorem boundName_of_plain (has : (NameList.asName.search t).isSome = false) (hopen : '\x7b' ∉ t)
    (hclose : '\x7d' ∉ t) : boundName t = trim t := by
  have plain : ¬ ((NameList.asName.search t).isSome || t.contains '\x7b' ||
      t.contains '\x7d') = true := by
    simpa [has] using ⟨hopen, hclose⟩
  rw [boundName, if_neg plain]

/-- A closing brace behind a name is dropped. -/
theorem closeBrace_pieces (hname : '\x7d' ∉ name) (hlast : ∀ e ∈ name.getLast?, ¬ isBlank e)
    (hy : Closing y) : (closeBrace.pieces (name ++ y)).headD [] = name := by
  rcases hy with rfl | ⟨gap, hgap, rfl⟩
  · change ((loose '\x7d').piecesBehind [] (name ++ [])).headD [] = name
    rw [List.append_nil, piecesBehind_of_quiet (quiet_loose_of_not_mem hname)]
    rfl
  · change ((loose '\x7d').piecesBehind [] _).headD [] = name
    have cut : name ++ (gap ++ ['\x7d']) = name ++ (gap ++ ['\x7d'] ++ [] ++ []) := by simp
    rw [cut, piecesBehind_loose (by decide) hname hlast hgap (by simp) (by simp)]
    rfl

theorem withoutBraces_of_closing (hopen : '\x7b' ∉ name) (hclose : '\x7d' ∉ name)
    (hhead : ∀ e ∈ name.head?, ¬ isBlank e) (hlast : ∀ e ∈ name.getLast?, ¬ isBlank e)
    (hy : Closing y) : withoutBraces (name ++ y) = name := by
  have opened : openBrace.pieces (name ++ y) = [name ++ y] := by
    change (loose '\x7b').piecesBehind [] (name ++ y) = [name ++ y]
    refine piecesBehind_of_quiet (quiet_loose_of_not_mem ?_)
    rcases hy with rfl | ⟨gap, hgap, rfl⟩
    · simpa using hopen
    · simpa [hopen] using not_mem_blank hgap (by decide)
  rw [withoutBraces, opened]
  simp only [List.headD_cons]
  rw [closeBrace_pieces hclose hlast hy, trim_eq_self hhead hlast]

theorem withoutBraces_of_opening (hopen : '\x7b' ∉ name) (hclose : '\x7d' ∉ name)
    (hgap : ∀ e ∈ gap, isBlank e) (hhead : ∀ e ∈ (name ++ y).head?, ¬ isBlank e)
    (hfirst : ∀ e ∈ name.head?, ¬ isBlank e) (hlast : ∀ e ∈ name.getLast?, ¬ isBlank e)
    (hy : Closing y) : withoutBraces ('\x7b' :: (gap ++ (name ++ y))) = name := by
  have hnot : '\x7b' ∉ name ++ y := by
    rcases hy with rfl | ⟨gap, hgap, rfl⟩
    · simpa using hopen
    · simpa [hopen] using not_mem_blank hgap (by decide)
  have opened : openBrace.pieces ('\x7b' :: (gap ++ (name ++ y))) = [[], name ++ y] := by
    change (loose '\x7b').piecesBehind [] _ = _
    have cut : '\x7b' :: (gap ++ (name ++ y)) = [] ++ ([] ++ ['\x7b'] ++ gap ++ (name ++ y)) := by simp
    rw [cut, piecesBehind_loose (by decide) (by simp) (by simp) (by simp) hgap hhead,
      piecesBehind_of_quiet (quiet_loose_of_not_mem hnot)]
  rw [withoutBraces, opened]
  simp only
  rw [closeBrace_pieces hclose hlast hy, trim_eq_self hfirst hlast]

/-! ## Entries -/

theorem Name.not_mem (n : Name) (hd : isNameChar d = false) : d ∉ n.text :=
  not_mem_name n.all hd

theorem Entry.head_visible (e : Entry) : ∀ c ∈ (e.text ++ t).head?, ¬ isBlank c := by
  unfold Entry.text
  split
  · exact e.name.head_visible
  · rw [List.append_assoc]
    exact e.name.head_visible

theorem Entry.last_visible (e : Entry) : ∀ c ∈ (t ++ e.text).getLast?, ¬ isBlank c := by
  unfold Entry.text
  split
  · exact e.name.last_visible
  · rename_i name _
    rw [← List.append_assoc, ← List.append_assoc]
    exact name.last_visible

/-- An opening brace with the white space behind it, or nothing. -/
def Opened (x : Text) : Prop :=
  x = [] ∨ ∃ gap, (∀ e ∈ gap, isBlank e) ∧ x = '\x7b' :: gap

theorem Opened.not_isNameChar (h : Opened x) : ∀ e ∈ x, ¬ isNameChar e := by
  rcases h with rfl | ⟨gap, hgap, rfl⟩
  · simp
  · intro e he
    rcases List.mem_cons.mp he with rfl | he
    · decide
    · exact not_isNameChar_of_isBlank (hgap e he)

theorem Closing.not_isNameChar (h : Closing y) : ∀ e ∈ y, ¬ isNameChar e := by
  rcases h with rfl | ⟨gap, hgap, rfl⟩
  · simp
  · intro e he
    rcases List.mem_append.mp he with he | he
    · exact not_isNameChar_of_isBlank (hgap e he)
    · rw [List.mem_singleton.mp he]
      decide

theorem Closing.last_visible (h : Closing y) (hx : ∀ e ∈ x.getLast?, ¬ isBlank e) :
    ∀ e ∈ (x ++ y).getLast?, ¬ isBlank e := by
  rcases h with rfl | ⟨gap, -, rfl⟩
  · simpa using hx
  · rw [← List.append_assoc, List.getLast?_concat]
    simp
    decide

/-- An entry without an alias binds what it is written as, without the braces of its list. -/
theorem boundName_of_quiet (hx : Opened x) (hy : Closing y)
    (quiet : (spaced "as".toList).Quiet [] (x ++ name ++ y) []) (hopen : '\x7b' ∉ name)
    (hclose : '\x7d' ∉ name) (hfirst : ∀ t, ∀ e ∈ (name ++ t).head?, ¬ isBlank e)
    (hlast : ∀ e ∈ name.getLast?, ¬ isBlank e) : boundName (x ++ name ++ y) = name := by
  have alone := aliasPieces_of_quiet quiet
  have first : ∀ e ∈ name.head?, ¬ isBlank e := by simpa using hfirst []
  rcases hx with rfl | ⟨gap, hgap, rfl⟩
  · rcases hy with rfl | ⟨gap, hgap, rfl⟩
    · simp only [List.nil_append, List.append_nil] at quiet ⊢
      rw [boundName_of_plain (asName_search_of_quiet quiet) hopen hclose, trim_eq_self first hlast]
    · rw [boundName_of_marked (.inr (.inr (by simp))), alone]
      simp only [List.nil_append]
      exact withoutBraces_of_closing hopen hclose first hlast (.inr ⟨gap, hgap, rfl⟩)
  · rw [boundName_of_marked (.inr (.inl (by simp))), alone]
    simp only [List.cons_append, List.append_assoc]
    exact withoutBraces_of_opening hopen hclose hgap (hfirst y) first hlast hy

/-- An entry with an alias binds the alias, without the braces of its list. -/
theorem boundName_of_renamed (g g' : Gap) {r r' : Run1 isNameChar} (hr : r.text ≠ "as".toList)
    (hr' : r'.text ≠ "as".toList) (hx : Opened x) (hy : Closing y) :
    boundName (x ++ (r.text ++ (g.text ++ "as".toList ++ g'.text ++ r'.text)) ++ y) = r'.text := by
  have split : x ++ (r.text ++ (g.text ++ "as".toList ++ g'.text ++ r'.text)) ++ y =
      (x ++ r.text) ++ (g.text ++ "as".toList ++ g'.text ++ (r'.text ++ y)) := by simp
  have before : Apart isNameChar "as".toList (x ++ r.text) := by
    simpa using apart_as_of_ne r hr hx.not_isNameChar (by simp : ∀ c ∈ [], ¬ isNameChar c)
  have behind : Apart isNameChar "as".toList (r'.text ++ y) := by
    simpa using apart_as_of_ne r' hr' (by simp : ∀ c ∈ [], ¬ isNameChar c) hy.not_isNameChar
  have last : ∀ c ∈ r'.text.getLast?, ¬ isBlank c := by
    simpa using last_visible_of_names r' (t := [])
  rw [split, boundName_of_marked (.inl (asName_search_of_renamed g g')),
    aliasPieces_of_renamed g g' before (last_visible_of_names r) behind (head_visible_of_names r')
      (hy.last_visible last)]
  exact withoutBraces_of_closing (not_mem_name r'.all (by decide)) (not_mem_name r'.all (by decide))
    (by simpa using head_visible_of_names r' (t := [])) last hy

/-- The name that an entry binds is read off it, with or without the braces of its list. -/
theorem boundName_entry (e : Entry) (hx : Opened x) (hy : Closing y) :
    boundName (x ++ e.text ++ y) = e.bound := by
  unfold Entry.text Entry.bound
  split
  case h_1 =>
    have apart := apart_as_of_ne e.name.toRun1 e.name.ne_as hx.not_isNameChar hy.not_isNameChar
    have last : ∀ c ∈ e.name.text.getLast?, ¬ isBlank c := by simpa using e.name.last_visible (t := [])
    exact boundName_of_quiet hx hy (quiet_as_of_apart apart (hy.last_visible e.name.last_visible))
      (e.name.not_mem (by decide)) (e.name.not_mem (by decide)) (fun _ => e.name.head_visible) last
  case h_2 g g' name _ => exact boundName_of_renamed g g' e.name.ne_as name.ne_as hx hy

/-- White space and an opening brace before an entry are trimmed to the brace. -/
theorem exists_opened (hx : Opening x) (hgap : ∀ e ∈ gap, isBlank e) :
    ∃ o, Opened o ∧ ∀ u, trim (x ++ (gap ++ u)) = trim (o ++ u) := by
  rcases hx with rfl | ⟨outer, houter, rfl⟩
  · exact ⟨[], .inl rfl, fun u => by simpa using trim_blank_append hgap⟩
  · refine ⟨'\x7b' :: gap, .inr ⟨gap, hgap, rfl⟩, fun u => ?_⟩
    rw [List.append_assoc, trim_blank_append houter]
    simp

/-- White space behind an entry is trimmed up to the closing brace. -/
theorem exists_closing (hy : Closing y) (hgap : ∀ e ∈ gap, isBlank e) :
    ∃ c, Closing c ∧ ∀ u, trim (u ++ (gap ++ y)) = trim (u ++ c) := by
  rcases hy with rfl | ⟨inner, hinner, rfl⟩
  · exact ⟨[], .inl rfl, fun u => by simpa using trim_append_blank hgap⟩
  · refine ⟨gap ++ inner ++ ['\x7d'], .inr ⟨gap ++ inner, ?_, rfl⟩, fun u => by simp⟩
    intro e he
    rcases List.mem_append.mp he with he | he
    · exact hgap e he
    · exact hinner e he

/-- White space around an entry does not change the name that it binds. -/
theorem boundName_between {entry bound : Text} (before behind : Space) (hx : Opening x) (hy : Closing y)
    (hfirst : ∀ t, ∀ e ∈ (entry ++ t).head?, ¬ isBlank e)
    (hlast : ∀ t, ∀ e ∈ (t ++ entry).getLast?, ¬ isBlank e)
    (h : ∀ o c, Opened o → Closing c → boundName (o ++ entry ++ c) = bound) :
    boundName (trim (x ++ (before.text ++ entry ++ behind.text) ++ y)) = bound := by
  obtain ⟨o, ho, hleft⟩ := exists_opened hx before.isBlank_of_isIndent
  obtain ⟨c, hc, hright⟩ := exists_closing hy behind.isBlank_of_isIndent
  have split : x ++ (before.text ++ entry ++ behind.text) ++ y =
      x ++ (before.text ++ (entry ++ (behind.text ++ y))) := by
    simp
  have first : ∀ e ∈ (o ++ (entry ++ c)).head?, ¬ isBlank e := by
    rcases ho with rfl | ⟨gap, -, rfl⟩
    · exact hfirst c
    · simp
      decide
  have last : ∀ e ∈ (o ++ (entry ++ c)).getLast?, ¬ isBlank e := by
    rw [← List.append_assoc]
    exact hc.last_visible (hlast o)
  rw [split, hleft, ← List.append_assoc, hright, List.append_assoc, trim_eq_self first last,
    ← List.append_assoc]
  exact h o c ho hc

/-- The piece of a list that holds an item gives its local name. -/
theorem boundName_item (i : Item) (hx : Opening x) (hy : Closing y) :
    boundName (trim (x ++ i.text ++ y)) = i.entry.bound :=
  boundName_between i.before i.behind hx hy (fun _ => i.entry.head_visible)
    (fun _ => i.entry.last_visible) fun _ _ => boundName_entry i.entry

theorem boundName_gap (hx : Opening x) (hgap : ∀ e ∈ gap, isBlank e) :
    boundName (trim (x ++ gap ++ ['\x7d'])) = [] := by
  obtain ⟨o, ho, hleft⟩ := exists_opened hx hgap
  have first : ∀ e ∈ (o ++ ['\x7d']).head?, ¬ isBlank e := by
    rcases ho with rfl | ⟨gap, -, rfl⟩ <;> simp <;> decide
  have last : ∀ e ∈ (o ++ ['\x7d']).getLast?, ¬ isBlank e := by
    simp
    decide
  have apart : Apart isNameChar "as".toList (o ++ ['\x7d']) := by
    refine apart_as_of_forall fun e he => ?_
    rcases List.mem_append.mp he with he | he
    · exact ho.not_isNameChar e he
    · rw [List.mem_singleton.mp he]
      decide
  have closing : Closing ['\x7d'] := .inr ⟨[], by simp, rfl⟩
  rw [List.append_assoc, hleft, trim_eq_self first last,
    boundName_of_marked (.inr (.inr (by simp))), aliasPieces_of_quiet (quiet_as_of_apart apart last)]
  rcases ho with rfl | ⟨gap, hgap, rfl⟩
  · exact withoutBraces_of_closing (by simp) (by simp) (by simp) (by simp) closing
  · have visible : ∀ e ∈ ([] ++ ['\x7d']).head?, ¬ isBlank e := by
      simp
      decide
    have dropped : withoutBraces ('\x7b' :: (gap ++ ([] ++ ['\x7d']))) = [] :=
      withoutBraces_of_opening (by simp) (by simp) hgap visible (by simp) (by simp) closing
    exact dropped

theorem boundName_star (g g' : Gap) (n : Name) :
    boundName (Selection.star g g' n).text = n.text := by
  have star : Apart isNameChar "as".toList ['*'] := apart_as_of_forall (by simpa using by decide)
  have alone : Apart isNameChar "as".toList n.text := by
    simpa using apart_as_of_ne n.toRun1 n.ne_as (by simp : ∀ c ∈ [], ¬ isNameChar c)
      (by simp : ∀ c ∈ [], ¬ isNameChar c)
  have first : ∀ c ∈ n.text.head?, ¬ isBlank c := by simpa using n.head_visible (t := [])
  have last : ∀ c ∈ n.text.getLast?, ¬ isBlank c := by simpa using n.last_visible (t := [])
  rw [Selection.text, boundName_of_marked (.inl (asName_search_of_renamed g g')),
    aliasPieces_of_renamed g g' star (by simpa using by decide) alone first last]
  have named := withoutBraces_of_closing (n.not_mem (by decide)) (n.not_mem (by decide)) first last
    (.inl rfl)
  simpa using named

/-! ## Clauses -/

theorem comma_not_mem_gap (s : Space) : ',' ∉ s.text :=
  not_mem_blank s.isBlank_of_isIndent (by decide)

theorem Entry.comma_not_mem (e : Entry) : ',' ∉ e.text := by
  unfold Entry.text
  split
  · exact e.name.not_mem (by decide)
  · rename_i g g' name _
    simp [e.name.not_mem (by decide : isNameChar ',' = false), comma_not_mem_gap,
      name.not_mem (by decide : isNameChar ',' = false)]

theorem Item.comma_not_mem (i : Item) : ',' ∉ i.text := by
  simp [Item.text, comma_not_mem_gap, i.entry.comma_not_mem]

theorem Braces.comma_not_mem_ending (b : Braces) : ',' ∉ b.ending := by
  unfold Braces.ending
  cases b.final <;> simp [comma_not_mem_gap, Item.comma_not_mem]

/-- The names of the pieces of a clause, without the pieces that have none. -/
def pieceNames (pieces : List Text) : List Text :=
  (pieces.map fun piece => boundName (trim piece)).filter fun name => !name.isEmpty

theorem importNames_eq_pieceNames (clause : Text) :
    importNames clause = pieceNames (splitOn ',' (trim clause)) := by
  have cut : ((NameList.comma.pieces (trim clause)).map trim) =
      (splitOn ',' (trim clause)).map trim := by
    change ((loose ',').piecesBehind [] (trim clause)).map trim = _
    exact map_trim_piecesBehind_loose (by decide)
  rw [importNames, NameList.entries, cut, pieceNames, List.map_map]
  rfl

theorem pieceNames_cons (h : boundName (trim t) ≠ []) (ts : List Text) :
    pieceNames (t :: ts) = boundName (trim t) :: pieceNames ts := by
  simp [pieceNames, h]

theorem pieceNames_cons_of_nil (h : boundName (trim t) = []) (ts : List Text) :
    pieceNames (t :: ts) = pieceNames ts := by
  simp [pieceNames, h]

theorem Entry.bound_ne_nil (e : Entry) : e.bound ≠ [] := by
  unfold Entry.bound
  split
  · exact e.name.ne_nil
  · rename_i name _
    exact name.ne_nil

/-- The last piece of a list holds its final item, if there is one. -/
theorem pieceNames_ending (b : Braces) (hx : Opening x) :
    pieceNames [x ++ b.ending] = b.final.toList.map (·.entry.bound) := by
  unfold Braces.ending
  cases hfinal : b.final with
  | none =>
    have split : x ++ ([] ++ b.gap.text ++ ['\x7d']) = x ++ b.gap.text ++ ['\x7d'] := by simp
    rw [Option.elim_none, split, pieceNames_cons_of_nil (boundName_gap hx b.gap.isBlank_of_isIndent)]
    rfl
  | some i =>
    have split : x ++ (i.text ++ b.gap.text ++ ['\x7d']) =
        x ++ i.text ++ (b.gap.text ++ ['\x7d']) := by
      simp
    have bound : boundName (trim (x ++ i.text ++ (b.gap.text ++ ['\x7d']))) = i.entry.bound :=
      boundName_item i hx (.inr ⟨_, b.gap.isBlank_of_isIndent, rfl⟩)
    rw [Option.elim_some, split, pieceNames_cons (by rw [bound]; exact i.entry.bound_ne_nil), bound]
    rfl

/-- The pieces of a list give the local names of its items. -/
theorem pieceNames_items (b : Braces) (items : List Item) (hx : Opening x) :
    pieceNames (splitOn ',' (x ++ (writtenItems items ++ b.ending))) =
      (items ++ b.final.toList).map (·.entry.bound) := by
  have comma : ',' ∉ x := by
    rcases hx with rfl | ⟨gap, hgap, rfl⟩
    · simp
    · simpa using not_mem_blank hgap (by decide)
  induction items generalizing x with
  | nil =>
    have none : ',' ∉ x ++ b.ending := by simp [comma, b.comma_not_mem_ending]
    rw [writtenItems, List.flatMap_nil, List.nil_append, splitOn_of_not_mem none,
      pieceNames_ending b hx, List.nil_append]
  | cons i items ih =>
    have split : x ++ (writtenItems (i :: items) ++ b.ending) =
        (x ++ i.text) ++ ',' :: ([] ++ (writtenItems items ++ b.ending)) := by
      simp [writtenItems]
    have none : ',' ∉ x ++ i.text := by simp [comma, i.comma_not_mem]
    have bound : boundName (trim (x ++ i.text)) = i.entry.bound := by
      simpa using boundName_item i hx (.inl rfl)
    rw [split, splitOn_append_cons none, pieceNames_cons (by rw [bound]; exact i.entry.bound_ne_nil),
      ih (.inl rfl) (by simp), bound]
    rfl

theorem Selection.head_visible (s : Selection) : ∀ e ∈ (s.text ++ t).head?, ¬ isBlank e := by
  cases s with
  | star g g' n =>
    simp [Selection.text]
    decide
  | braces b =>
    simp [Selection.text, Braces.text]
    decide

theorem Selection.last_visible (s : Selection) : ∀ e ∈ (t ++ s.text).getLast?, ¬ isBlank e := by
  cases s with
  | star g g' n =>
    simp only [Selection.text, ← List.append_assoc]
    exact n.last_visible
  | braces b =>
    have ends : t ++ b.text = t ++ '\x7b' :: (writtenItems b.leading ++ (b.final.elim [] Item.text) ++
        b.gap.text) ++ ['\x7d'] := by
      simp [Braces.text, Braces.ending]
    rw [Selection.text, ends, List.getLast?_concat]
    simp
    decide

/-- The pieces of a selection give the names that it binds. -/
theorem pieceNames_selection (s : Selection) (hgap : ∀ e ∈ gap, isBlank e) :
    pieceNames (splitOn ',' (gap ++ s.text)) = s.names := by
  cases s with
  | star g g' n =>
    have none : ',' ∉ gap ++ (Selection.star g g' n).text := by
      simp [Selection.text, not_mem_blank hgap (by decide : isBlank ',' = false), comma_not_mem_gap,
        n.not_mem (by decide : isNameChar ',' = false)]
    have trimmed : trim (gap ++ (Selection.star g g' n).text) = (Selection.star g g' n).text := by
      rw [trim_blank_append hgap]
      refine trim_eq_self ?_ ?_
      · simpa using (Selection.star g g' n).head_visible (t := [])
      · simpa using (Selection.star g g' n).last_visible (t := [])
    have bound : boundName (trim (gap ++ (Selection.star g g' n).text)) = n.text := by
      rw [trimmed, boundName_star]
    rw [splitOn_of_not_mem none, pieceNames_cons (by rw [bound]; exact n.ne_nil), bound]
    rfl
  | braces b =>
    have split : gap ++ b.text = (gap ++ ['\x7b']) ++ (writtenItems b.leading ++ b.ending) := by
      simp [Braces.text]
    rw [Selection.text, split]
    exact pieceNames_items b b.leading (.inr ⟨gap, hgap, rfl⟩)

theorem Clause.head_visible (c : Clause) : ∀ e ∈ (c.text ++ t).head?, ¬ isBlank e := by
  cases c with
  | plain n => exact n.head_visible
  | selected s => exact s.head_visible
  | both n _ _ s =>
    rw [Clause.text, List.append_assoc, List.append_assoc]
    exact n.head_visible

theorem Clause.last_visible (c : Clause) : ∀ e ∈ (t ++ c.text).getLast?, ¬ isBlank e := by
  cases c with
  | plain n => exact n.last_visible
  | selected s => exact s.last_visible
  | both n before behind s =>
    have ends : t ++ (Clause.both n before behind s).text =
        t ++ (n.text ++ before.text ++ ',' :: behind.text) ++ s.text := by simp [Clause.text]
    rw [ends]
    exact s.last_visible

/-- Reading the names off a written clause gives the names that it binds, in order. -/
theorem importNames_text (c : Clause) : importNames c.text = c.names := by
  have trimmed : trim c.text = c.text := by
    refine trim_eq_self ?_ ?_
    · simpa using c.head_visible (t := [])
    · simpa using c.last_visible (t := [])
  rw [importNames_eq_pieceNames, trimmed]
  have single : ∀ (n : Name) (s : Space), boundName (trim (n.text ++ s.text)) = n.text := by
    intro n s
    have := boundName_item ⟨⟨[], by simp⟩, ⟨n, none⟩, s⟩ (.inl rfl) (.inl rfl)
    simpa [Item.text, Entry.text, Entry.bound] using this
  cases c with
  | plain n =>
    have bound : boundName (trim n.text) = n.text := by simpa using single n ⟨[], by simp⟩
    rw [Clause.text, splitOn_of_not_mem (n.not_mem (by decide)),
      pieceNames_cons (by rw [bound]; exact n.ne_nil), bound]
    rfl
  | selected s =>
    have names : pieceNames (splitOn ',' ([] ++ s.text)) = s.names := pieceNames_selection s (by simp)
    simpa [Clause.text, Clause.names] using names
  | both n before behind s =>
    have none : ',' ∉ n.text ++ before.text := by
      simp [n.not_mem (by decide : isNameChar ',' = false), comma_not_mem_gap]
    rw [Clause.text, splitOn_append_cons none,
      pieceNames_cons (by rw [single]; exact n.ne_nil), single,
      pieceNames_selection s behind.isBlank_of_isIndent]
    rfl

/-! ## Names of `require` statements -/

theorem word_not_mem (n : Run1 isWord) (hd : isWord d = false) : d ∉ n.text := by
  intro hmem
  simp [n.all d hmem] at hd

/-- Without its white space a slot is its name. -/
theorem Slot.filter_text (s : Slot) : s.text.filter (fun c => !isBlank c) = s.name.text := by
  have blank : ∀ gap : Space, gap.text.filter (fun c => !isBlank c) = [] := by
    intro gap
    rw [List.filter_eq_nil_iff]
    intro c hc
    simp [gap.isBlank_of_isIndent c hc]
  have visible : s.name.text.filter (fun c => !isBlank c) = s.name.text := by
    rw [List.filter_eq_self]
    intro c hc
    simpa using not_isBlank_of_isWord (s.name.all c hc)
  simp [Slot.text, blank, visible]

theorem Slot.trim_text (s : Slot) : trim s.text = s.name.text := by
  refine trim_between s.before.isBlank_of_isIndent s.behind.isBlank_of_isIndent ?_ ?_
  · have head := s.name.head (t := [])
    rw [List.append_nil] at head
    exact fun e he => not_isBlank_of_isWord (head e he)
  · exact fun e he => not_isBlank_of_isWord (s.name.last (t := []) e he)

theorem Slot.comma_not_mem (s : Slot) : ',' ∉ s.text := by
  simp [Slot.text, comma_not_mem_gap, word_not_mem s.name (by decide : isWord ',' = false)]

theorem writtenSlots_cons (first s : Slot) (others : List Slot) :
    writtenSlots first (s :: others) = first.text ++ ',' :: writtenSlots s others := by
  simp [writtenSlots]

/-- Without white space the slots are the names with commas between them. -/
theorem splitOn_writtenSlots (first : Slot) (others : List Slot) :
    splitOn ',' ((writtenSlots first others).filter fun c => !isBlank c) =
      (first :: others).map (·.name.text) := by
  induction others generalizing first with
  | nil =>
    rw [writtenSlots, List.flatMap_nil, List.append_nil, first.filter_text,
      splitOn_of_not_mem (word_not_mem first.name (by decide))]
    rfl
  | cons s others ih =>
    have visible : ∀ t : Text, (',' :: t).filter (fun c => !isBlank c) =
        ',' :: t.filter fun c => !isBlank c := fun t => List.filter_cons_of_pos (by decide)
    rw [writtenSlots_cons, List.filter_append, first.filter_text, visible,
      splitOn_append_cons (word_not_mem first.name (by decide)), ih]
    rfl

/-- Reading the names off a written list gives the names in its slots, in order. -/
theorem requireNames_writtenSlots (first : Slot) (others : List Slot) :
    requireNames (writtenSlots first others) = (first :: others).map (·.name.text) := by
  have named : ((first :: others).map (·.name.text)).filter (fun name => !name.isEmpty) =
      (first :: others).map (·.name.text) := by
    rw [List.filter_eq_self]
    intro name hname
    obtain ⟨s, -, rfl⟩ := List.mem_map.mp hname
    simpa using s.name.ne_nil
  unfold requireNames
  cases others with
  | nil =>
    have none : (writtenSlots first []).contains ',' = false := by
      simpa [writtenSlots] using first.comma_not_mem
    simp only [none, Bool.false_eq_true, ↓reduceIte]
    simp only [writtenSlots, List.flatMap_nil, List.append_nil, first.trim_text]
    exact named
  | cons s others =>
    have some : (writtenSlots first (s :: others)).contains ',' = true := by
      simp [writtenSlots_cons]
    simp only [some, ↓reduceIte, splitOn_writtenSlots]
    exact named

end Kudos.Script
