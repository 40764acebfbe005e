import Mathlib
import Kudos.Statement.Python
import Kudos.Proofs.Pattern.Separator
import Kudos.Proofs.Statement.Token

/-!
# Written Python import statements

A line with an import statement as it is written: `import` or `from m import` behind any indentation,
entries with commas between them, and behind the last entry blanks and perhaps a comment. Reading the
names off the statement gives the local names of its entries in order (`names_statement`), and reading
its module gives the module (`moduleName_statement`).
-/

namespace Kudos.Python

open Text Pattern

variable {pre t x y : Text} {c : Char}

/-! ## Lines -/

/-- Spaces, or nothing. -/
abbrev Spaces := Run (· == ' ')

/-- Spaces and tabs, or nothing. -/
abbrev Indent := Run isIndent

/-- At least one space or tab. -/
abbrev Gap := Run1 isIndent

/-- An imported name. -/
structure Name extends Run1 isWord where
  /-- It is not the keyword before an alias. -/
  ne_as : text ≠ "as".toList
  /-- It is not the keyword before the names. -/
  ne_import : text ≠ "import".toList

/-- A name with an alias, if it has one. -/
structure Entry where
  name : Name
  /-- The local name, with the spaces around the keyword before it. -/
  renamed : Option (Run1 (· == ' ') × Run1 (· == ' ') × Name)

/-- The entry as written. -/
def Entry.text (e : Entry) : Text :=
  match e.renamed with
  | none => e.name.text
  | some (gap, gap', name) => e.name.text ++ (gap.text ++ "as".toList ++ gap'.text ++ name.text)

/-- The local name. -/
def Entry.bound (e : Entry) : Text :=
  match e.renamed with
  | none => e.name.text
  | some (_, _, name) => name.text

/-- An entry behind a comma. -/
structure Follower where
  before : Spaces
  behind : Spaces
  entry : Entry

/-- The comma and the entry as written. -/
def Follower.text (f : Follower) : Text :=
  f.before.text ++ ',' :: (f.behind.text ++ f.entry.text)

/-- `from m` with what stands around the module. -/
structure Origin where
  gap : Gap
  module : Run1 isPathChar
  gap' : Gap

/-- The clause as written. -/
def Origin.text (o : Origin) : Text :=
  "from".toList ++ o.gap.text ++ o.module.text ++ o.gap'.text

/-- A line with an import statement. -/
structure ImportLine where
  indent : Indent
  /-- Where the names come from, if the statement says so. -/
  origin : Option Origin
  gap : Gap
  first : Entry
  others : List Follower
  /-- The blanks behind the last entry. -/
  trailing : Indent
  /-- What follows them: a comment, a carriage return, or nothing. -/
  remark : Text
  remark_head : ∀ e ∈ remark.head?, e = '#' ∨ e = '\r'

/-- The entries as written. -/
def ImportLine.list (l : ImportLine) : Text :=
  l.first.text ++ l.others.flatMap Follower.text

/-- The clause before `import`. -/
def ImportLine.clause (l : ImportLine) : Text :=
  l.origin.elim [] Origin.text

/-- The statement without its indentation. -/
def ImportLine.statement (l : ImportLine) : Text :=
  l.clause ++ "import".toList ++ l.gap.text ++ l.list

/-- The line as written. -/
def ImportLine.text (l : ImportLine) : Text :=
  l.indent.text ++ l.statement ++ (l.trailing.text ++ l.remark)

/-- The module of the statement, empty if it names none. -/
def ImportLine.source (l : ImportLine) : Text :=
  l.origin.elim [] (·.module.text)

/-- The names that it binds. -/
def ImportLine.names (l : ImportLine) : List Text :=
  l.first.bound :: l.others.map (·.entry.bound)

/-! ## Characters of statements -/

theorem isBlank_of_mem_spaces (s : Spaces) : ∀ e ∈ s.text, isBlank e := by
  intro e he
  have hspace : e = ' ' := by simpa using s.all e he
  rw [hspace]
  decide

theorem isWord_of_mem_as : ∀ e ∈ "as".toList, isWord e := by
  simpa using (by decide : isWord 'a' ∧ isWord 's')

theorem isWord_of_mem_import : ∀ e ∈ "import".toList, isWord e := by
  simpa using (by decide : isWord 'i' ∧ isWord 'm' ∧ isWord 'p' ∧ isWord 'o' ∧ isWord 'r' ∧
    isWord 't')

theorem not_isWord_of_isBlank (h : isBlank c) : ¬ isWord c :=
  fun hword => not_isBlank_of_isWord hword h

theorem Entry.last (e : Entry) : ∀ c ∈ (t ++ e.text).getLast?, isWord c := by
  unfold Entry.text
  split
  case h_1 => exact e.name.last
  case h_2 gap gap' name _ =>
    have ends : t ++ (e.name.text ++ (gap.text ++ "as".toList ++ gap'.text ++ name.text)) =
        t ++ e.name.text ++ (gap.text ++ "as".toList ++ gap'.text) ++ name.text := by simp
    rw [ends]
    exact name.last

theorem Entry.head (e : Entry) : ∀ c ∈ (e.text ++ t).head?, isWord c := by
  unfold Entry.text
  split
  case h_1 => exact e.name.head
  case h_2 gap gap' name _ =>
    rw [List.append_assoc]
    exact e.name.head

theorem Entry.comma_not_mem (e : Entry) : ',' ∉ e.text := by
  have word : ∀ name : Run1 isWord, ',' ∉ name.text := by
    intro name hmem
    exact absurd (name.all _ hmem) (by decide)
  have space : ∀ s : Spaces, ',' ∉ s.text := by
    intro s hmem
    exact absurd (isBlank_of_mem_spaces s _ hmem) (by decide)
  unfold Entry.text
  split <;> simp [word, space]

/-! ## Separate keywords -/

theorem Name.visible (n : Name) : ∀ e ∈ n.text, ¬ isBlank e :=
  fun e he => not_isBlank_of_isWord (n.all e he)

theorem Name.trim_text (n : Name) : trim n.text = n.text :=
  trim_eq_self (fun e he => n.visible e (List.mem_of_mem_head? he))
    fun e he => n.visible e (List.mem_of_getLast? he)

/-- A name that is not a keyword holds no separate keyword. -/
theorem apart_name {w : Text} (n : Name) (hwne : w ≠ []) (hw : ∀ e ∈ w, isWord e) (hne : n.text ≠ w) :
    Apart isWord w n.text := by
  have apart := Apart.name_append hwne hw n.all hne (by simp) (Apart.nil hwne)
  rwa [List.append_nil] at apart

/-- What stands before the first entry when the keyword at the start of the statement is dropped: the
module and `import`, or nothing. -/
def lead (origin : Option Origin) (gap : Gap) : Text :=
  origin.elim [] fun o => o.module.text ++ (o.gap'.text ++ "import".toList ++ gap.text)

theorem isPathChar_of_isWord (h : isWord c) : isPathChar c := by
  simp [isPathChar, h]

theorem not_isBlank_of_isPathChar (h : isPathChar c) : ¬ isBlank c := by
  rcases Bool.or_eq_true _ _ |>.mp h with h | h
  · exact not_isBlank_of_isWord h
  · obtain rfl : c = '.' := by simpa using h
    decide

/-- White space does not start inside a module. -/
theorem quiet_module {w : Text} (m : Run1 isPathChar) : (spaced w).Quiet pre m.text t := by
  refine quiet_of_forall fun c hc u v hstarts => ?_
  obtain ⟨gap, _, _, hne, -, hgap, -, hsplit⟩ := starts_spaced.mp hstarts
  obtain ⟨d, gap, rfl⟩ := List.exists_cons_of_ne_nil hne
  obtain ⟨rfl, -⟩ := List.cons.inj hsplit
  exact not_isBlank_of_isPathChar (m.all c hc) (hgap c (by simp))

/-- No alias keyword stands before the name of the first entry. -/
theorem quiet_as_lead (origin : Option Origin) (gap : Gap) (n : Name) (ht : ∀ e ∈ t.head?, isBlank e) :
    (spaced "as".toList).Quiet pre (lead origin gap ++ n.text) t := by
  have name : Apart isWord "as".toList n.text := apart_name n (by simp) isWord_of_mem_as n.ne_as
  have last : ∀ x, ∀ e ∈ (x ++ n.text).getLast?, ¬ isBlank e :=
    fun x e he => not_isBlank_of_isWord (n.last e he)
  cases origin with
  | none => exact quiet_spaced (fun _ => not_isWord_of_isBlank) isWord_of_mem_as name (last []) ht
  | some o =>
    have blank : ∀ g : Gap, ∀ e ∈ g.text, ¬ isWord e :=
      fun g e he => not_isWord_of_isBlank (g.isBlank_of_isIndent e he)
    have head : ∀ e ∈ (gap.text ++ n.text).head?, ¬ isWord e :=
      fun e he => not_isWord_of_isBlank (isBlank_of_isIndent (gap.head e he))
    have keyword : Apart isWord "as".toList
        (o.gap'.text ++ ("import".toList ++ (gap.text ++ n.text))) := by
      refine .skip_append (by simp) isWord_of_mem_as (blank o.gap') ?_
      refine .name_append (by simp) isWord_of_mem_as isWord_of_mem_import (by decide) head ?_
      exact .skip_append (by simp) isWord_of_mem_as (blank gap) name
    have split : lead (some o) gap ++ n.text =
        o.module.text ++ (o.gap'.text ++ ("import".toList ++ (gap.text ++ n.text))) := by
      simp [lead]
    rw [split]
    refine (quiet_module o.module).append
      (quiet_spaced (fun _ => not_isWord_of_isBlank) isWord_of_mem_as keyword ?_ ht)
    have ends : o.gap'.text ++ ("import".toList ++ (gap.text ++ n.text)) =
        o.gap'.text ++ "import".toList ++ gap.text ++ n.text := by simp
    rw [ends]
    exact last _

/-! ## Names of entries -/

/-- What stands behind the last `import` of the first entry is its name. -/
theorem importKeyword_pieces_lead (o : Origin) (gap : Gap) (n : Name) :
    importKeyword.pieces (lead (some o) gap ++ n.text) = [o.module.text, n.text] := by
  have name : Apart isWord "import".toList n.text :=
    apart_name n (by simp) isWord_of_mem_import n.ne_import
  have visible : ∀ e ∈ n.text.head?, ¬ isBlank e := fun e he => n.visible e (List.mem_of_mem_head? he)
  have last : ∀ e ∈ n.text.getLast?, ¬ isBlank e := fun e he => n.visible e (List.mem_of_getLast? he)
  have first : (spaced "import".toList).ReadsFirst ([] ++ o.module.text)
      (o.gap'.text ++ "import".toList ++ gap.text) n.text [] :=
    readsFirst_spaced (by simp; decide) o.gap'.ne_nil gap.ne_nil o.gap'.isBlank_of_isIndent
      gap.isBlank_of_isIndent visible
  have split : lead (some o) gap ++ n.text =
      o.module.text ++ (o.gap'.text ++ "import".toList ++ gap.text ++ n.text) := by
    simp [lead]
  have cut : (spaced "import".toList).piecesBehind [] (lead (some o) gap ++ n.text) =
      [o.module.text, n.text] := by
    rw [split, piecesBehind_of_readsFirst (quiet_module o.module) (by simp) first,
      piecesBehind_of_apart (fun _ => not_isWord_of_isBlank) isWord_of_mem_import name last]
  exact cut

theorem importKeyword_pieces_name (n : Name) : importKeyword.pieces n.text = [n.text] := by
  have cut : (spaced "import".toList).piecesBehind [] n.text = [n.text] :=
    piecesBehind_of_apart (fun _ => not_isWord_of_isBlank) isWord_of_mem_import
      (apart_name n (by simp) isWord_of_mem_import n.ne_import)
      fun e he => n.visible e (List.mem_of_getLast? he)
  exact cut

/-- An entry binds its local name, the first one also behind the module and `import`. -/
theorem boundName_lead (origin : Option Origin) (gap : Gap) (e : Entry) :
    boundName (lead origin gap ++ e.text) = e.bound := by
  unfold Entry.text Entry.bound
  cases e.renamed with
  | none =>
    have pieces : NameList.aliasPieces (lead origin gap ++ e.name.text) =
        [lead origin gap ++ e.name.text] := by
      change (spaced "as".toList).piecesBehind [] _ = _
      exact piecesBehind_of_quiet (quiet_as_lead origin gap e.name (by simp))
    unfold boundName
    simp only [pieces]
    cases origin with
    | none =>
      change (if occursIn "import".toList e.name.text then
        trim ((importKeyword.pieces e.name.text).getLastD []) else trim e.name.text) = e.name.text
      rw [importKeyword_pieces_name]
      split <;> exact e.name.trim_text
    | some o =>
      have occurs : occursIn "import".toList (lead (some o) gap ++ e.name.text) = true := by
        have := occursIn_append (o.module.text ++ o.gap'.text) "import".toList
          (gap.text ++ e.name.text)
        simpa [lead] using this
      rw [occurs, importKeyword_pieces_lead]
      exact e.name.trim_text
  | some renamed =>
    obtain ⟨g, g', n⟩ := renamed
    have head : ∀ e ∈ n.text.head?, ¬ isBlank e := fun e he => n.visible e (List.mem_of_mem_head? he)
    have spaces : ∀ g : Run1 (· == ' '), ∀ e ∈ g.text, isBlank e := fun g =>
      isBlank_of_mem_spaces g.toRun
    have first : (spaced "as".toList).ReadsFirst ([] ++ (lead origin gap ++ e.name.text))
        (g.text ++ "as".toList ++ g'.text) n.text [] :=
      readsFirst_spaced (by simp; decide) g.ne_nil g'.ne_nil (spaces g) (spaces g') head
    have blank : ∀ t : Text, ∀ e ∈ (g.text ++ t).head?, isBlank e := by
      intro t e he
      obtain ⟨d, s, hs, hd⟩ := g.exists_cons
      rw [hs] at he
      exact spaces g e (by rw [hs]; exact List.mem_of_mem_head? he)
    have split : lead origin gap ++ (e.name.text ++ (g.text ++ "as".toList ++ g'.text ++ n.text)) =
        (lead origin gap ++ e.name.text) ++ (g.text ++ "as".toList ++ g'.text ++ n.text) := by simp
    have pieces : NameList.aliasPieces
        ((lead origin gap ++ e.name.text) ++ (g.text ++ "as".toList ++ g'.text ++ n.text)) =
          [lead origin gap ++ e.name.text, n.text] := by
      change (spaced "as".toList).piecesBehind [] _ = _
      rw [piecesBehind_of_readsFirst (quiet_as_lead origin gap e.name ?_) (by simp) first,
        piecesBehind_of_apart (fun _ => not_isWord_of_isBlank) isWord_of_mem_as
          (apart_name n (by simp) isWord_of_mem_as n.ne_as)
          fun e he => n.visible e (List.mem_of_getLast? he)]
      simpa using blank ("as".toList ++ (g'.text ++ n.text))
    unfold boundName
    rw [split, pieces]
    exact n.trim_text

/-! ## Names of statements -/

theorem comma_not_mem_lead (origin : Option Origin) (gap : Gap) : ',' ∉ lead origin gap := by
  have blank : ∀ g : Gap, ',' ∉ g.text := by
    intro g hmem
    exact absurd (g.all _ hmem) (by decide)
  cases origin with
  | none => simp [lead]
  | some o =>
    have module : ',' ∉ o.module.text := by
      intro hmem
      exact absurd (o.module.all _ hmem) (by decide)
    simp [lead, module, blank]

theorem splitOn_followers (hx : ',' ∉ x) (others : List Follower) :
    (splitOn ',' (x ++ others.flatMap Follower.text)).map trim =
      trim x :: others.map (·.entry.text) := by
  induction others generalizing x with
  | nil => rw [List.flatMap_nil, List.append_nil, splitOn_of_not_mem hx]; rfl
  | cons f fs ih =>
    have space : ∀ s : Spaces, ',' ∉ s.text := by
      intro s hmem
      exact absurd (isBlank_of_mem_spaces s _ hmem) (by decide)
    have split : x ++ (f :: fs).flatMap Follower.text =
        (x ++ f.before.text) ++ ',' :: ((f.behind.text ++ f.entry.text) ++
          fs.flatMap Follower.text) := by
      simp [Follower.text]
    have trimmed : trim (f.behind.text ++ f.entry.text) = f.entry.text := by
      rw [trim_blank_append (isBlank_of_mem_spaces f.behind)]
      refine trim_eq_self (fun e he => not_isBlank_of_isWord ?_) (fun e he => not_isBlank_of_isWord ?_)
      · exact f.entry.head (t := []) e (by simpa using he)
      · exact f.entry.last (t := []) e he
    rw [split, splitOn_append_cons (by simp [hx, space]), List.map_cons,
      trim_append_blank (isBlank_of_mem_spaces f.before),
      ih (by simp [space, f.entry.comma_not_mem]), trimmed, List.map_cons]

/-- The text behind the first keyword of a statement. -/
def ImportLine.body (l : ImportLine) : Text :=
  lead l.origin l.gap ++ l.list

theorem lead_entry_visible (origin : Option Origin) (gap : Gap) (e : Entry) :
    ∀ c ∈ (lead origin gap ++ e.text ++ t).head?, ¬ isBlank c := by
  cases origin with
  | none => exact fun c hc => not_isBlank_of_isWord (e.head c hc)
  | some o =>
    intro c hc
    have split : lead (some o) gap ++ e.text ++ t =
        o.module.text ++ (o.gap'.text ++ "import".toList ++ gap.text ++ e.text ++ t) := by
      simp [lead]
    rw [split] at hc
    exact not_isBlank_of_isPathChar (o.module.head c hc)

theorem body_visible (l : ImportLine) : ∀ e ∈ l.body.head?, ¬ isBlank e := by
  have split : l.body = lead l.origin l.gap ++ l.first.text ++ l.others.flatMap Follower.text := by
    simp [ImportLine.body, ImportLine.list]
  rw [split]
  exact lead_entry_visible l.origin l.gap l.first

/-- Reading the names off the text behind the first keyword gives the names of the entries. -/
theorem map_boundName_entries (l : ImportLine) :
    (NameList.entries l.body).map boundName = l.names := by
  have split : l.body = (lead l.origin l.gap ++ l.first.text) ++ l.others.flatMap Follower.text := by
    simp [ImportLine.body, ImportLine.list]
  have comma : ',' ∉ lead l.origin l.gap ++ l.first.text := by
    simp [comma_not_mem_lead, l.first.comma_not_mem]
  have trimmed : trim (lead l.origin l.gap ++ l.first.text) = lead l.origin l.gap ++ l.first.text := by
    refine trim_eq_self ?_ (fun c hc => not_isBlank_of_isWord (l.first.last c hc))
    simpa using lead_entry_visible l.origin l.gap l.first (t := [])
  have entries : NameList.entries l.body =
      (lead l.origin l.gap ++ l.first.text) :: l.others.map (·.entry.text) := by
    change ((loose ',').piecesBehind [] l.body).map trim = _
    rw [map_trim_piecesBehind_loose (by decide), split, splitOn_followers comma, trimmed]
  have followers : ∀ f : Follower, boundName f.entry.text = f.entry.bound :=
    fun f => boundName_lead none l.gap f.entry
  rw [entries, List.map_cons, boundName_lead, List.map_map, ImportLine.names]
  congr 1
  exact List.map_congr_left fun f _ => followers f

theorem keyword_matchStart (l : ImportLine) :
    ∃ run, l.statement = run ++ l.body ∧ keyword.matchStart l.statement = some ⟨0, run, []⟩ := by
  have behind : ∀ (g : Gap) pre, (many1 isBlank).ReadsFirst pre g.text l.body [] :=
    fun g _ => .many1 g.ne_nil g.isBlank_of_isIndent (body_visible l)
  cases horigin : l.origin with
  | none =>
    have keyword : ∀ rest, (word "import" <|> word "from").ReadsFirst [] "import".toList rest [] :=
      fun _ => .left .literal
    have split : l.statement = "import".toList ++ l.gap.text ++ l.body := by
      simp [ImportLine.statement, ImportLine.clause, ImportLine.body, lead, horigin]
    refine ⟨"import".toList ++ l.gap.text, split, ?_⟩
    rw [split]
    exact matchHere_of_readsFirst ((keyword _).andThen (behind l.gap _))
  | some o =>
    have keyword : ∀ rest, (word "import" <|> word "from").ReadsFirst [] "from".toList rest [] := by
      intro rest
      refine .right ?_ .literal
      rintro ⟨run, t, gs, hsplit, hreads⟩
      obtain ⟨rfl, -⟩ := reads_word.mp hreads
      simp at hsplit
    have split : l.statement = "from".toList ++ o.gap.text ++ l.body := by
      simp only [ImportLine.statement, ImportLine.clause, ImportLine.body, lead, horigin, Option.elim_some]
      unfold Origin.text
      simp
    refine ⟨"from".toList ++ o.gap.text, split, ?_⟩
    rw [split]
    exact matchHere_of_readsFirst ((keyword _).andThen (behind o.gap _))

theorem Entry.bound_ne_nil (e : Entry) : e.bound ≠ [] := by
  unfold Entry.bound
  split
  · exact e.name.ne_nil
  case h_2 _ _ name _ => exact name.ne_nil

/-- Reading the names off a written statement gives the names that it binds, in order. -/
theorem names_statement (l : ImportLine) : names l.statement = l.names := by
  obtain ⟨run, hsplit, hmatch⟩ := keyword_matchStart l
  have behind : l.statement.drop (Match.stop ⟨0, run, []⟩) = l.body := by
    rw [hsplit, Match.stop, Nat.zero_add, List.drop_left]
  have named : ∀ name ∈ l.names, (!name.isEmpty) = true := by
    intro name hname
    have hne : name ≠ [] := by
      rcases List.mem_cons.mp hname with rfl | hname
      · exact l.first.bound_ne_nil
      · obtain ⟨f, -, rfl⟩ := List.mem_map.mp hname
        exact f.entry.bound_ne_nil
    simpa using hne
  rw [names, hmatch]
  simp only [behind]
  rw [map_boundName_entries, List.filter_eq_self.mpr named]

theorem not_isPathChar_of_isIndent (h : isIndent c) : ¬ isPathChar c :=
  fun hpath => not_isBlank_of_isPathChar hpath (isBlank_of_isIndent h)

theorem readsFirst_gap (o : Origin) :
    (many1 isIndent).ReadsFirst pre o.gap.text (o.module.text ++ t) [] :=
  .many1 o.gap.ne_nil o.gap.all fun e he hindent =>
    not_isPathChar_of_isIndent hindent (o.module.head e he)

theorem readsFirst_module (o : Origin) :
    (many1 isPathChar).ReadsFirst pre o.module.text (o.gap'.text ++ t) [] :=
  .many1 o.module.ne_nil o.module.all fun e he => not_isPathChar_of_isIndent (o.gap'.head e he)

/-- The module of a written statement is read as it stands, and a statement without one has none. -/
theorem moduleName_statement (l : ImportLine) : moduleName l.statement = l.source := by
  unfold moduleName ImportLine.source
  cases horigin : l.origin with
  | none =>
    have split : l.statement = "import".toList ++ (l.gap.text ++ l.list) := by
      simp [ImportLine.statement, ImportLine.clause, horigin]
    have absent : fromModule.matchStart l.statement = none := by
      have here : fromModule.matchHere ([] : Text).getLast? l.statement 0 = none ↔
          ¬ fromModule.Starts [] l.statement := matchHere_eq_none
      refine here.mpr fun hstarts => ?_
      obtain ⟨run, rest, _, hrun, hreads⟩ := starts_left (starts_left hstarts)
      obtain ⟨rfl, -⟩ := reads_word.mp hreads
      rw [split] at hrun
      simp at hrun
    rw [absent]
    rfl
  | some o =>
    have split : l.statement = ("from".toList ++ o.gap.text ++ o.module.text) ++
        (o.gap'.text ++ ("import".toList ++ l.gap.text ++ l.list)) := by
      simp only [ImportLine.statement, ImportLine.clause, horigin, Option.elim_some]
      unfold Origin.text
      simp
    have keyword : ∀ rest, (word "from").ReadsFirst [] "from".toList rest [] := fun _ => .literal
    have module : ∀ pre rest, (group (many1 isPathChar)).ReadsFirst pre o.module.text
        (o.gap'.text ++ rest) [o.module.text] := fun _ _ => .group (readsFirst_module o)
    have found : fromModule.matchStart l.statement =
        some ⟨0, "from".toList ++ o.gap.text ++ o.module.text, [o.module.text]⟩ := by
      rw [split]
      exact matchHere_of_readsFirst (((keyword _).andThen (readsFirst_gap o)).andThen (module _ _))
    rw [found]
    rfl

end Kudos.Python
