import Mathlib
import Kudos.Toml.Printer
import Kudos.Proofs.Text.Lines
import Kudos.Proofs.Toml.Entries
import Kudos.Proofs.Toml.Lines

/-!
# Configurations read as they were written

The documented configuration is made of sections of strings, integers and truth values. What is written
for such a configuration is read as the configuration (`Plain.ofText_toText`), with the limits that plain
strings have. The text is followed line by line: `Drafts room t d` says that the reader makes a draft of whole
lines, and one more line makes one more step of the draft.
-/

namespace Kudos.Toml

open Text

variable {t line key name : Text} {place : List Step} {d d' : Draft} {fields entries : Table} {v : Toml}
  {sections : List (Text × Table)} {room : Nat}

/-- Whether the entries of a section are read as they were written. -/
structure PlainSection (entries : Table) : Prop where
  bare : ∀ e ∈ entries, Bare e.1
  plain : ∀ e ∈ entries, PlainValue e.2
  nodup : (entries.map (·.1)).Nodup

/-- Whether a configuration is read as it was written. -/
structure Plain (fields : Table) : Prop where
  bare : ∀ f ∈ fields, Bare f.1
  tables : ∀ f ∈ fields, ∃ entries, f.2 = table entries ∧ PlainSection entries
  nodup : (fields.map (·.1)).Nodup

theorem plainSection_nil : PlainSection [] where
  bare := by simp
  plain := by simp
  nodup := List.nodup_nil

theorem PlainSection.set (hentries : PlainSection entries) (hkey : Bare key) (hv : PlainValue v) :
    PlainSection (Fields.set key v entries) where
  bare e he := by
    rcases Fields.eq_or_mem_of_mem_set he with rfl | he
    · exact hkey
    · exact hentries.bare e he
  plain e he := by
    rcases Fields.eq_or_mem_of_mem_set he with rfl | he
    · exact hv
    · exact hentries.plain e he
  nodup := Fields.nodup_set hentries.nodup

theorem Plain.set (hfields : Plain fields) (hname : Bare name) (hentries : PlainSection entries) :
    Plain (Fields.set name (table entries) fields) where
  bare f hf := by
    rcases Fields.eq_or_mem_of_mem_set hf with rfl | hf
    · exact hname
    · exact hfields.bare f hf
  tables f hf := by
    rcases Fields.eq_or_mem_of_mem_set hf with rfl | hf
    · exact ⟨entries, rfl, hentries⟩
    · exact hfields.tables f hf
  nodup := Fields.nodup_set hfields.nodup

theorem Plain.exists_section (hfields : Plain fields) (h : Fields.get? fields name = some v) :
    ∃ entries, v = table entries ∧ PlainSection entries :=
  hfields.tables _ (Fields.mem_of_get? h)

theorem Plain.erase (hfields : Plain fields) (name : Text) : Plain (Fields.erase name fields) where
  bare f hf := hfields.bare f (List.mem_of_mem_filter hf)
  tables f hf := hfields.tables f (List.mem_of_mem_filter hf)
  nodup := hfields.nodup.sublist (List.filter_sublist.map _)

/-! ## What is written -/

/-- The lines of the entries of a section. -/
def entriesText (entries : Table) : Text :=
  entries.flatMap fun e => entryLine e.1 e.2 ++ ['\n']

/-- A section with its header behind a text. -/
def withSection (before : Text) (s : Text × Table) : Text :=
  addSection before s.1 { entries := entriesText s.2 }

theorem keyText_eq (hkey : Bare key) : keyText key = .ok key := by
  have hbare : (!key.isEmpty && key.all fun c => c.isAlphanum || c = '_' || c = '-') = true := by
    simpa [isBare] using And.intro hkey.ne_nil hkey.all
  unfold keyText
  rw [if_pos hbare]

theorem mapM_eq_ok {α β ε : Type} {f : α → Except ε β} {g : α → β} {l : List α}
    (h : ∀ a ∈ l, f a = .ok (g a)) :
    l.mapM f = .ok (l.map g) := by
  induction l with
  | nil => rfl
  | cons a l ih =>
    rw [List.mapM_cons, h a List.mem_cons_self, ih fun b hb => h b (List.mem_cons_of_mem _ hb)]
    rfl

theorem exists_split_eq (room : Nat) : ∃ below, split room = tableParts room below := by
  cases room with
  | zero => exact ⟨_, rfl⟩
  | succ room => exact ⟨split room, rfl⟩

theorem split_entries (hentries : PlainSection entries) (room : Nat) (outer : Text) :
    split room outer entries = .ok { entries := entriesText entries } := by
  obtain ⟨below, hsplit⟩ := exists_split_eq room
  have hparts : entries.mapM (fun e => entryPart room below outer e.1 e.2) =
      .ok (entries.map fun e => { entries := entryLine e.1 e.2 ++ ['\n'] }) := by
    refine mapM_eq_ok fun e he => ?_
    obtain ⟨key, v⟩ := e
    have hv : PlainValue v := hentries.plain _ he
    have htext := valueText_eq hv room
    unfold entryPart
    rw [keyText_eq (hentries.bare _ he)]
    cases hv <;> rw [htext] <;> rfl
  have hfold : ∀ entries : Table,
      (entries.map fun e => ({ entries := entryLine e.1 e.2 ++ ['\n'] } : Sections)).foldr
      Sections.append {} = { entries := entriesText entries } := by
    intro entries
    induction entries with
    | nil => rfl
    | cons e entries ih =>
      rw [List.map_cons, List.foldr_cons, ih]
      rfl
  rw [hsplit]
  show (entries.mapM (fun e => entryPart room below outer e.1 e.2) >>= fun parts => _) = _
  rw [hparts]
  exact congrArg Except.ok (hfold entries)

/-- The fields of a configuration with these sections. -/
def ofSections (sections : List (Text × Table)) : Table :=
  sections.map fun s => (s.1, table s.2)

theorem Plain.exists_sections (hfields : Plain fields) :
    ∃ sections, fields = ofSections sections ∧ ∀ s ∈ sections, PlainSection s.2 := by
  obtain ⟨-, htables, -⟩ := hfields
  induction fields with
  | nil => exact ⟨[], rfl, by simp⟩
  | cons f fields ih =>
    obtain ⟨hf, hrest⟩ := List.forall_mem_cons.mp htables
    obtain ⟨entries, hentries, hplain⟩ := hf
    obtain ⟨sections, rfl, hsections⟩ := ih hrest
    exact ⟨(f.1, entries) :: sections, by simp [ofSections, ← hentries],
      List.forall_mem_cons.mpr ⟨hplain, hsections⟩⟩

theorem split_ofSections (hnames : ∀ s ∈ sections, Bare s.1) (room : Nat) :
    split room [] (ofSections sections) = .ok { tables := sections } := by
  obtain ⟨below, hsplit⟩ := exists_split_eq room
  have hparts : (ofSections sections).mapM (fun f => entryPart room below [] f.1 f.2) =
      .ok (sections.map fun s => { tables := [s] }) := by
    unfold ofSections
    rw [List.mapM_map]
    refine mapM_eq_ok fun s hs => ?_
    show entryPart room below [] s.1 (table s.2) = _
    unfold entryPart
    rw [keyText_eq (hnames s hs)]
    rfl
  have hfold : ∀ sections : List (Text × Table), (sections.map fun s => ({ tables := [s] } : Sections)).foldr
      Sections.append {} = { tables := sections } := by
    intro sections
    induction sections with
    | nil => rfl
    | cons s sections ih =>
      rw [List.map_cons, List.foldr_cons, ih]
      rfl
  rw [hsplit]
  show ((ofSections sections).mapM (fun f => entryPart room below [] f.1 f.2) >>= fun parts => _) = _
  rw [hparts]
  exact congrArg Except.ok (hfold sections)

theorem addTables_eq (hsections : ∀ s ∈ sections, PlainSection s.2) (room fuel : Nat) (before : Text) :
    addTables room (fuel + 1) before sections = .ok (sections.foldl withSection before) := by
  cases sections with
  | nil => rfl
  | cons s sections =>
    have hparts : (s :: sections).mapM (fun s => split room s.1 s.2 >>= fun p => pure (s.1, p)) =
        .ok ((s :: sections).map fun s => (s.1, { entries := entriesText s.2 })) := by
      refine mapM_eq_ok fun s hs => ?_
      rw [split_entries (hsections s hs)]
      rfl
    have hnext : ((s :: sections).map fun s => (s.1, ({ entries := entriesText s.2 } : Sections))).flatMap
        (fun p => p.2.tables.map fun t => (nameBelow p.1 t.1, t.2)) = [] := by
      rw [List.flatMap_map]
      exact List.flatMap_eq_nil_iff.mpr fun _ _ => rfl
    rw [addTables]
    · show ((s :: sections).mapM (fun s => split room s.1 s.2 >>= fun p => pure (s.1, p)) >>= fun parts =>
        addTables room fuel (parts.foldl (fun text p => addSection text p.1 p.2) before)
          (parts.flatMap fun p => p.2.tables.map fun t => (nameBelow p.1 t.1, t.2))) = _
      rw [hparts]
      show addTables room fuel _ (((s :: sections).map fun s => (s.1, ({ entries := entriesText s.2 } :
        Sections))).flatMap fun p => p.2.tables.map fun t => (nameBelow p.1 t.1, t.2)) = _
      rw [hnext, List.foldl_map, addTables]
      rfl
    · simp

theorem toText_ofSections (hnames : ∀ s ∈ sections, Bare s.1) (hsections : ∀ s ∈ sections, PlainSection s.2)
    (room : Nat) : toText room (ofSections sections) = .ok (sections.foldl withSection []) := by
  obtain ⟨fuel, hfuel⟩ : ∃ fuel, levels (table (ofSections sections)) = fuel + 1 :=
    ⟨_, Nat.add_comm 1 (levels.goFields (ofSections sections))⟩
  unfold toText
  rw [split_ofSections hnames, hfuel]
  exact addTables_eq hsections room fuel []

/-! ## What is read -/

/-- Whether the reader makes a draft of whole lines that end with newlines only. -/
structure Drafts (room : Nat) (t : Text) (d : Draft) : Prop where
  passes : Passes {} [] t {}
  made : ∃ lines : List Text, t = lines.flatMap (· ++ ['\n']) ∧ (∀ line ∈ lines, '\n' ∉ line) ∧
    lines.foldlM Draft.addLine { room } = .ok d
  no_return : '\r' ∉ t

theorem Drafts.empty (room : Nat) : Drafts room [] { room } where
  passes := .refl _ _
  made := ⟨[], rfl, by simp, rfl⟩
  no_return := by simp

/-- One more line makes one more step of the draft. -/
theorem Drafts.addLine (h : Drafts room t d) (hpasses : Passes {} t.reverse (line ++ ['\n']) {})
    (hbreak : '\n' ∉ line ∧ '\r' ∉ line) (hadd : d.addLine line = .ok d') :
    Drafts room (t ++ (line ++ ['\n'])) d' where
  passes := h.passes.append (by rwa [List.append_nil])
  made := by
    obtain ⟨lines, rfl, hlines, hdraft⟩ := h.made
    refine ⟨lines ++ [line], by simp, ?_, ?_⟩
    · intro l hl
      rcases List.mem_append.mp hl with hl | hl
      · exact hlines l hl
      · exact List.mem_singleton.mp hl ▸ hbreak.1
    · rw [List.foldlM_append, hdraft]
      show (d.addLine line >>= fun d => pure d) = _
      rw [hadd]
      rfl
  no_return := by simp [h.no_return, hbreak.2]

theorem Drafts.ofText_eq (h : Drafts room t (draftAt room fields place)) : ofText room t = .ok fields := by
  obtain ⟨ls, hlines, hbreak, hdraft⟩ := h.made
  have hpasses := h.passes []
  rw [List.append_nil, List.append_nil] at hpasses
  have hread : lines t = .ok (ls ++ [[]]) := by
    unfold lines
    rw [hpasses]
    show Except.ok (splitOn '\n' t.reverse.reverse) = _
    rw [List.reverse_reverse, hlines, splitOn_lines hbreak]
  unfold Toml.ofText
  rw [hread]
  show ((ls ++ [[]]).foldlM Draft.addLine { room } >>= fun d => _) = _
  rw [List.foldlM_append, hdraft]
  rfl

theorem joinLineBreaks_eq_self (h : '\r' ∉ t) : joinLineBreaks t = t := by
  fun_induction joinLineBreaks t with
  | case1 => rfl
  | case2 t ih => exact absurd List.mem_cons_self h
  | case3 c t _ ih =>
    rw [List.mem_cons, not_or] at h
    rw [if_neg (Ne.symm h.1), ih h.2]

/-! ## Section by section -/

theorem not_break_of_isBare (ht : Bare t) : '\n' ∉ t ∧ '\r' ∉ t :=
  ⟨ht.not_mem (by decide), ht.not_mem (by decide)⟩

theorem not_break_plainText (hv : PlainValue v) : '\n' ∉ plainText v ∧ '\r' ∉ plainText v := by
  rcases plainText_cases hv with hbare | ⟨s, hs, htext⟩
  · exact not_break_of_isBare hbare
  · have hbody := ne_break_of_mem_escaped (escaped_body hs.legible)
    rw [htext]
    simpa using And.intro (fun h => (hbody _ h).1 rfl) fun h => (hbody _ h).2 rfl

theorem Drafts.addEntry (h : Drafts room t (draftAt room (fields ++ [(name, table entries)]) [.field name]))
    (hname : name ∉ fields.map (·.1)) (hkey : Bare key) (hnew : key ∉ entries.map (·.1)) (hv : PlainValue v) :
    Drafts room (t ++ (entryLine key v ++ ['\n']))
      (draftAt room (fields ++ [(name, table (entries ++ [(key, v)]))]) [.field name]) := by
  have hkeyBreak := not_break_of_isBare hkey
  have hvalueBreak := not_break_plainText hv
  refine h.addLine (passes_entry hkey hv _) ?_ (addLine_entry hname hkey hnew hv)
  simp [entryLine, hkeyBreak, hvalueBreak]

theorem Drafts.addEntries (h : Drafts room t (draftAt room (fields ++ [(name, table entries)]) [.field name]))
    (hname : name ∉ fields.map (·.1)) {more : Table} (hmore : PlainSection (entries ++ more)) :
    Drafts room (t ++ entriesText more)
      (draftAt room (fields ++ [(name, table (entries ++ more))]) [.field name]) := by
  induction more generalizing t entries with
  | nil => simpa [entriesText] using h
  | cons e more ih =>
    have hmem : e ∈ entries ++ e :: more := by simp
    have hnew : e.1 ∉ entries.map (·.1) := by
      have hnodup := hmore.nodup
      rw [List.map_append, List.nodup_append] at hnodup
      exact fun h => hnodup.2.2 _ h e.1 (by simp) rfl
    have hnext := ih (h.addEntry hname (hmore.bare e hmem) hnew (hmore.plain e hmem)) (by simpa using hmore)
    simpa [entriesText] using hnext

theorem Drafts.addSection (h : Drafts room t (draftAt room fields place)) (hname : Bare name)
    (hnew : name ∉ fields.map (·.1))
    (hentries : PlainSection entries) :
    Drafts room (withSection t (name, entries))
      (draftAt room (fields ++ [(name, table entries)]) [.field name]) := by
  obtain ⟨blank, hblank, htext⟩ : ∃ blank, (blank = [] ∨ blank = ['\n']) ∧ withSection t (name, entries) =
      t ++ blank ++ (headerLine name ++ ['\n']) ++ entriesText entries := by
    refine ⟨if t.isEmpty || t.reverse.take 2 = ['\n', '\n'] then [] else ['\n'], (ite_eq_or_eq _ _ _), ?_⟩
    unfold withSection Toml.addSection
    rw [if_neg (by simp)]
    simp [Sections.text, headerText, headerLine]
  have hdraft : Drafts room (t ++ blank) (draftAt room fields place) := by
    rcases hblank with rfl | rfl
    · rwa [List.append_nil]
    · have hnext : Drafts room (t ++ ([] ++ ['\n'])) (draftAt room fields place) :=
        h.addLine (passes_newline _) (by simp) rfl
      exact hnext
  have hheader := hdraft.addLine (passes_header hname _)
    (by simpa [headerLine] using not_break_of_isBare hname)
    (addLine_header hname hnew place)
  rw [htext]
  exact hheader.addEntries hnew hentries

theorem Drafts.addSections (h : Drafts room t (draftAt room fields place)) (hnames : ∀ s ∈ sections, Bare s.1)
    (hsections : ∀ s ∈ sections, PlainSection s.2)
    (hnodup : ((fields ++ ofSections sections).map (·.1)).Nodup) :
    ∃ place, Drafts room (sections.foldl withSection t)
      (draftAt room (fields ++ ofSections sections) place) := by
  induction sections generalizing t fields place with
  | nil => exact ⟨place, by simpa [ofSections] using h⟩
  | cons s sections ih =>
    obtain ⟨hname, hnames⟩ := List.forall_mem_cons.mp hnames
    obtain ⟨hs, hsections⟩ := List.forall_mem_cons.mp hsections
    have hnew : s.1 ∉ fields.map (·.1) := by
      rw [List.map_append, List.nodup_append] at hnodup
      exact fun h => hnodup.2.2 _ h s.1 (by simp [ofSections]) rfl
    have hnext := ih (h.addSection hname hnew hs) hnames hsections (by simpa [ofSections] using hnodup)
    simpa [ofSections] using hnext

/-- What is written for a plain configuration is read as the configuration. -/
theorem Plain.ofText_toText (hfields : Plain fields) (room room' : Nat) :
    ∃ text, toText room fields = .ok text ∧ ofText room' (joinLineBreaks text) = .ok fields := by
  obtain ⟨sections, rfl, hsections⟩ := hfields.exists_sections
  have hnames : ∀ s ∈ sections, Bare s.1 := fun s hs =>
    hfields.bare (s.1, table s.2) (List.mem_map.mpr ⟨s, hs, rfl⟩)
  have hstart : Drafts room' [] (draftAt room' [] []) := .empty room'
  obtain ⟨place, hdrafts⟩ := hstart.addSections hnames hsections (by simpa using hfields.nodup)
  refine ⟨_, toText_ofSections hnames hsections room, ?_⟩
  rw [joinLineBreaks_eq_self hdrafts.no_return]
  exact hdrafts.ofText_eq

end Kudos.Toml
