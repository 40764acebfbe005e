import Mathlib
import Kudos.Proofs.Toml.Values

/-!
# Entries of a configuration

What the reader makes of one line. The header of a new section adds an empty table and leads to it
(`addLine_header`), and an entry behind it adds a field to that table (`addLine_entry`). A line is cut at
its first separator, since neither names nor the blank in front of a value have one.
-/

namespace Kudos.Toml

open Text

variable {c : Char} {t w x y key name : Text} {v : Toml} {fields entries : Table} {rest : List Text}
  {room : Nat}

/-! ## Cutting at the first separator -/

theorem cut_append_cons (hx : c ∉ x) (limit : Nat) (y : Text) :
    cut [c] (limit + 1) (x ++ c :: y) = x :: cut [c] limit y := by
  induction x with
  | nil => simp [cut]
  | cons d x ih =>
    have hd : d ≠ c := fun h => hx (by simp [h])
    have hprefix : ¬ [c] <+: d :: (x ++ c :: y) := by
      rw [List.cons_prefix_cons]
      exact fun h => hd h.1.symm
    rw [List.cons_append, cut_cons_of_not_starts hprefix, ih fun h => hx (List.mem_cons_of_mem _ h)]
    rfl

theorem occurrences_ne_zero (hx : c ∉ x) (y : Text) : occurrences [c] (x ++ c :: y) ≠ 0 := by
  unfold occurrences
  obtain ⟨n, hn⟩ : ∃ n, (x ++ c :: y).length = n + 1 := ⟨x.length + y.length, by simp; omega⟩
  have hpos := List.length_pos_of_ne_nil (cut_ne_nil [c] n y)
  rw [hn, cut_append_cons hx, List.length_cons]
  omega

theorem quoteParts_of_not_mem (ht : '"' ∉ t ∧ '\'' ∉ t) : quoteParts t = [t] := by
  unfold quoteParts
  rw [splitOn_of_not_mem ht.1]
  show splitOn '\'' t ++ [] = [t]
  rw [splitOn_of_not_mem ht.2, List.append_nil]

theorem quoteParts_append_cons (hx : '"' ∉ x ∧ '\'' ∉ x) (y : Text) :
    quoteParts (x ++ '"' :: y) = x :: splitOn '"' y := by
  unfold quoteParts
  rw [splitOn_append_cons hx.1]
  obtain ⟨piece, pieces, hpieces⟩ := List.exists_cons_of_ne_nil (splitOn_ne_nil '"' y)
  have hsingle : x.contains '\'' = false := by simpa using hx.2
  rw [hpieces]
  dsimp only
  rw [hsingle, if_neg (by simp)]
  show splitOn '\'' x ++ piece :: pieces = x :: piece :: pieces
  rw [splitOn_of_not_mem hx.2, List.singleton_append]

theorem cutsTo_append_cons (hx : c ∉ x) (y : Text) (rest : List Text) :
    cutsTo [c] false ((x ++ c :: y) :: rest) = 1 := by
  unfold cutsTo
  simp [occurrences_ne_zero hx y]

/-- One cut reaches the first separator of a line, if no mark stands before it. -/
theorem cutsIn_of_not_mem (hx : c ∉ x) (ht : '"' ∉ x ++ c :: y ∧ '\'' ∉ x ++ c :: y) :
    cutsIn [c] (x ++ c :: y) = 1 := by
  unfold cutsIn
  rw [quoteParts_of_not_mem ht, cutsTo_append_cons hx]

theorem cutsIn_append_mark (hx : c ∉ x) (ht : '"' ∉ x ++ c :: w ∧ '\'' ∉ x ++ c :: w) (y : Text) :
    cutsIn [c] (x ++ c :: (w ++ '"' :: y)) = 1 := by
  unfold cutsIn
  rw [← List.cons_append, ← List.append_assoc, quoteParts_append_cons ht, cutsTo_append_cons hx]

/-! ## What is written for a value -/

theorem trim_cons_concat {a b : Char} (ha : ¬ isBlank a) (hb : ¬ isBlank b) (t : Text) :
    trim (a :: t ++ [b]) = a :: t ++ [b] := by
  have hlast : (a :: t ++ [b]).getLast? = some b := List.getLast?_concat
  refine trim_eq_self (fun e he => ?_) fun e he => ?_
  · obtain rfl : a = e := Option.some.inj he
    exact ha
  · rw [hlast] at he
    obtain rfl : b = e := Option.some.inj he
    exact hb

/-- The written value starts and ends with characters that are not blank. -/
theorem trim_plainText (hv : PlainValue v) : trim (' ' :: plainText v) = plainText v := by
  rw [← List.singleton_append, trim_blank_append (List.forall_mem_singleton.mpr (by decide))]
  cases hv with
  | string => exact trim_cons_concat (by decide) (by decide) _
  | int => exact (bare_ofInt _).trim_eq
  | bool b => exact (bare_plainText_bool b).trim_eq

theorem Bare.not_marks (ht : Bare t) : '"' ∉ t ∧ '\'' ∉ t :=
  ⟨ht.not_mem (by decide), ht.not_mem (by decide)⟩

/-- Marks stand at the start of a written value or nowhere. -/
theorem plainText_cases (hv : PlainValue v) :
    Bare (plainText v) ∨ ∃ s, PlainString s ∧ plainText v = '"' :: (body s ++ ['"']) := by
  cases hv with
  | string hs => exact .inr ⟨_, hs, rfl⟩
  | int => exact .inl (bare_ofInt _)
  | bool b => exact .inl (bare_plainText_bool b)

theorem head?_ne_of_isBare (ht : Bare t) (hc : ¬ isBare c) : t.head? ≠ some c :=
  fun h => ht.not_mem hc (List.mem_of_mem_head? h)

/-- No written value goes on below its line. -/
theorem isOpen_plainText (hv : PlainValue v) : Entry.isOpen (plainText v) = .ok false := by
  unfold Entry.isOpen
  by_cases hshort : (plainText v).length < 3
  · rw [if_pos hshort]
    rfl
  rw [if_neg hshort]
  rcases plainText_cases hv with hbare | ⟨s, hs, htext⟩
  · have hbracket := head?_ne_of_isBare hbare (c := '[') (by decide)
    obtain ⟨first, rest, hfirst⟩ := List.exists_cons_of_ne_nil hbare.ne_nil
    have hquote := not_isQuote_of_isBare (hbare.all first (by rw [hfirst]; exact List.mem_cons_self))
    have hpart : Entry.openPart (plainText v) = .ok (plainText v) := by
      unfold Entry.openPart
      rw [if_neg (by simp [hbracket])]
    rw [hpart, hfirst]
    simp [hquote, pure, Except.pure, bind, Except.bind]
  · have hpart : Entry.openPart (plainText v) = .ok (plainText v) := by
      unfold Entry.openPart
      rw [if_neg (by simp [htext])]
    have hbody : body s ≠ [] := by
      intro h
      rw [htext, h] at hshort
      exact hshort (by decide)
    obtain ⟨first, rest, hfirst⟩ := List.exists_cons_of_ne_nil hbody
    have hmark := ne_mark_of_body_eq hs.legible hfirst
    rw [hpart, htext, hfirst]
    simp [hmark, isQuote, pure, Except.pure, bind, Except.bind]

/-! ## Entries -/

theorem keyPath_of_bare (hkey : Bare key) : keyPath key = .ok ([], key) := by
  have hdot : '.' ∉ key := hkey.not_mem (by decide)
  unfold keyPath
  rw [if_neg (by simpa using hdot)]
  obtain ⟨first, rest, rfl⟩ := List.exists_cons_of_ne_nil hkey.ne_nil
  simp [not_isQuote_of_isBare (hkey.all first List.mem_cons_self)]

theorem cutsIn_entryLine (hkey : Bare key) (hv : PlainValue v) : cutsIn ['='] (entryLine key v) = 1 := by
  have hequals : '=' ∉ key ++ [' '] := by simpa using hkey.not_mem (by decide)
  have hmarks := hkey.not_marks
  have hline : entryLine key v = key ++ [' '] ++ '=' :: ([' '] ++ plainText v) := by simp [entryLine]
  rw [hline]
  rcases plainText_cases hv with hbare | ⟨s, -, htext⟩
  · have hvalue := hbare.not_marks
    exact cutsIn_of_not_mem hequals (by simpa using ⟨⟨hmarks.1, hvalue.1⟩, hmarks.2, hvalue.2⟩)
  · rw [htext]
    exact cutsIn_append_mark hequals (by simpa using hmarks) _

theorem ofLine_entryLine (hkey : Bare key) (hv : PlainValue v) :
    Entry.ofLine (entryLine key v) =
      .ok { path := [], key, value := plainText v, plain := isPlainNumeral (' ' :: plainText v) } := by
  have hcut : cut ['='] 1 (entryLine key v) = [key ++ [' '], ' ' :: plainText v] := by
    have hequals : '=' ∉ key ++ [' '] := by simpa using hkey.not_mem (by decide)
    have hline : entryLine key v = key ++ [' '] ++ '=' :: (' ' :: plainText v) := by simp [entryLine]
    rw [hline, cut_append_cons hequals, cut_zero]
  have htrim : trim (key ++ [' ']) = key := by
    rw [trim_append_blank (List.forall_mem_singleton.mpr (by decide)), hkey.trim_eq]
  have hentry (fuel : Nat) (plain : Bool) : cutEntry (entryLine key v) (fuel + 1) 1 plain (' ' :: plainText v) =
      .ok (key ++ [' '], plain, ' ' :: plainText v) := by
    rw [cutEntry, if_pos (by rfl), hcut]
    rfl
  have hblank : ¬ (' ' :: plainText v).head?.any Char.isDigit := by
    rw [List.head?_cons]
    decide
  unfold Entry.ofLine
  simp only [cutsIn_entryLine hkey hv, hcut]
  show (cutEntry (entryLine key v) ((entryLine key v).length + 1 + 1) 1 (isPlainNumeral (' ' :: plainText v))
    (if (' ' :: plainText v).head?.any Char.isDigit then _ else ' ' :: plainText v) >>= fun r => _) = _
  rw [if_neg hblank, hentry]
  show (keyPath (trim (key ++ [' '])) >>= fun r => _) = _
  rw [htrim, keyPath_of_bare hkey]
  show Except.ok _ = Except.ok _
  rw [trim_plainText hv]

/-! ## Lines of a draft -/

/-- A draft of some fields. The next entries go to a place. -/
def draftAt (room : Nat) (fields : Table) (place : List Step) : Draft :=
  { room, root := table fields, place }

theorem header_eq (hname : Bare name) : header (headerLine name) = .ok (false, [name]) := by
  have hbracket : ']' ∉ name := hname.not_mem (by decide)
  have hcuts : cutsIn [']'] (name ++ [']']) = 1 :=
    cutsIn_of_not_mem hbracket (by simpa using hname.not_marks)
  have hcut : cut [']'] 1 (name ++ [']']) = [name, []] := by
    rw [cut_append_cons hbracket, cut_zero]
  have hsplit : splitOn '.' name = [name] := splitOn_of_not_mem (hname.not_mem (by decide))
  have htables : (name ++ [']']).head? ≠ some '[' := by
    rw [List.head?_append_of_ne_nil _ hname.ne_nil]
    exact head?_ne_of_isBare hname (by decide)
  have hnames : headerNames 1 [name] = .ok [name] := by
    have hquote : ¬ name.head?.any isQuote := by
      obtain ⟨first, rest, rfl⟩ := List.exists_cons_of_ne_nil hname.ne_nil
      exact not_isQuote_of_isBare (hname.all first List.mem_cons_self)
    have hbare : (!name.isEmpty && name.all isBare) = true := by
      simpa using ⟨hname.ne_nil, hname.all⟩
    rw [headerNames]
    dsimp only
    rw [hname.trim_eq, if_neg hquote, if_pos hbare]
    rfl
  have hbody : List.drop [']'].length ('[' :: (name ++ [']'])) = name ++ [']'] := rfl
  unfold header headerLine
  simp only [List.cons_append, List.drop_one, List.tail_cons, htables, decide_false, if_false]
  simp only [hbody, hcuts, hcut]
  rw [if_neg (by simp [trim, dropRightWhile, hname.ne_nil])]
  show (headerNames (splitOn '.' name).length (splitOn '.' name) >>= fun names => pure (false, names)) = _
  rw [hsplit, List.length_singleton, hnames]
  rfl

theorem openHeader_new (hname : Bare name) (hnew : name ∉ fields.map (·.1)) :
    openHeader false [name] [] (table fields) =
      .ok ⟨table (fields ++ [(name, table [])]), [.field name], []⟩ := by
  have hfound := Fields.get?_of_not_mem hnew
  have hset := Fields.set_of_not_mem (table []) hnew
  simp [openHeader, hname.ne_nil, hfound, openLast, goOn, hset, bind, Except.bind, pure, Except.pure]

/-- The header of a new section. -/
theorem addLine_header (hname : Bare name) (hnew : name ∉ fields.map (·.1)) (place : List Step) :
    (draftAt room fields place).addLine (headerLine name) =
      .ok (draftAt room (fields ++ [(name, table [])]) [.field name]) := by
  have htrim : trim (headerLine name) = headerLine name := trim_cons_concat (by decide) (by decide) name
  show Draft.addPlain (draftAt room fields place) (trim (headerLine name)) = _
  rw [htrim]
  show (header (headerLine name) >>= fun r => openHeader r.1 r.2 [] (table fields) >>= fun o => _) = _
  rw [header_eq hname]
  show (openHeader false [name] [] (table fields) >>= fun o => _) = _
  rw [openHeader_new hname hnew]
  rfl

theorem put_plainText (hnew : key ∉ entries.map (·.1)) (hv : PlainValue v) (room : Nat) :
    Entry.put (read room) { path := [], key, value := plainText v, plain := isPlainNumeral (' ' :: plainText v) }
      (table entries) = .ok (table (entries ++ [(key, v)]), none) := by
  have hread := read_plainText hv room
  have hset := Fields.set_of_not_mem v hnew
  unfold Entry.put
  simp [isOpen_plainText hv, hread, Fields.get?_of_not_mem hnew, hset, bind, Except.bind, pure, Except.pure,
    Except.map]

theorem trim_entryLine (hkey : Bare key) (hv : PlainValue v) : trim (entryLine key v) = entryLine key v := by
  obtain ⟨first, name, rfl⟩ := List.exists_cons_of_ne_nil hkey.ne_nil
  have hfirst := not_isBlank_of_isBare (hkey.all first List.mem_cons_self)
  obtain ⟨t, last, htext, hlast⟩ : ∃ t last, plainText v = t ++ [last] ∧ ¬ isBlank last := by
    rcases plainText_cases hv with hbare | ⟨s, -, htext⟩
    · refine ⟨_, _, (List.dropLast_append_getLast hbare.ne_nil).symm, ?_⟩
      exact not_isBlank_of_isBare (hbare.all _ (List.getLast_mem hbare.ne_nil))
    · exact ⟨'"' :: body s, '"', htext, by decide⟩
  have hline : entryLine (first :: name) v = first :: (name ++ [' ', '=', ' '] ++ t) ++ [last] := by
    simp [entryLine, htext]
  rw [hline, trim_cons_concat hfirst hlast]

theorem addPlain_entryLine (hkey : Bare key) (v : Toml) (d : Draft) :
    d.addPlain (entryLine key v) = Entry.ofLine (entryLine key v) >>= fun e => d.change (e.addTo (read d.room)) := by
  obtain ⟨first, name, rfl⟩ := List.exists_cons_of_ne_nil hkey.ne_nil
  have hfirst := hkey.all first List.mem_cons_self
  have hequals : (entryLine (first :: name) v).contains '=' := by simp [entryLine]
  have hline : entryLine (first :: name) v = first :: (name ++ [' ', '=', ' '] ++ plainText v) := rfl
  unfold Draft.addPlain
  split
  · next heq => cases heq
  · next heq => exact absurd (List.cons.inj (hline.symm.trans heq)).1 (ne_of_isBare hfirst (by decide))
  · next heq => exact absurd (List.cons.inj (hline.symm.trans heq)).1 (ne_of_isBare hfirst (by decide))
  · rw [if_pos hequals]

/-- An entry behind the header of its section. -/
theorem addLine_entry (hname : name ∉ fields.map (·.1)) (hkey : Bare key) (hnew : key ∉ entries.map (·.1))
    (hv : PlainValue v) :
    (draftAt room (fields ++ [(name, table entries)]) [.field name]).addLine (entryLine key v) =
      .ok (draftAt room (fields ++ [(name, table (entries ++ [(key, v)]))]) [.field name]) := by
  have hput := put_plainText hnew hv room
  show Draft.addPlain _ (trim (entryLine key v)) = _
  rw [trim_entryLine hkey hv, addPlain_entryLine hkey v, ofLine_entryLine hkey hv,
    ← Fields.set_of_not_mem (table entries) hname, ← Fields.set_of_not_mem (table (entries ++ [(key, v)])) hname]
  simp [Draft.change, draftAt, atPlace, Fields.get?_set_self, Entry.addTo, Entry.along, hput, Fields.set_set, bind,
    Except.bind, pure, Except.pure]

end Kudos.Toml
