import Mathlib
import Kudos.Display.Markup
import Kudos.Proofs.Display.Wrap
import Kudos.Proofs.Pattern.Junction

/-!
# What markup shows

A text without brackets, backslashes, codes of pictographs and controls is shown as it is, also in front
of markup, which is then shown as it is alone (`plain?_append`): the tags of the whole message are those
of the markup, and the text joins what the markup shows first. The same holds for such a text in a style
of its own (`plain?_styled`). So whether a message can be shown at all depends on the part of it that is
not known.
-/

namespace Kudos

open Text Pattern

variable {x y t : Text} {c : Char}

/-! ## Pictographs -/

namespace Emoji

theorem edgeFree_code : code.EdgeFree :=
  ⟨⟨trivial, trivial⟩, ⟨⟨trivial, trivial, trivial⟩, trivial⟩, trivial⟩

/-- A name between colons starts with a colon, and no blank follows it. -/
theorem starts_code {pre : Text} (h : code.Starts pre t) :
    ∃ c u, t = ':' :: c :: u ∧ ¬ isBlank c := by
  have first : ∀ {d : Char} {pre u : Text}, (char d).Starts pre u → ∃ v, u = d :: v := by
    rintro d pre _ ⟨run, v, gs, rfl, hreads⟩
    obtain ⟨rfl, -⟩ := reads_char.mp hreads
    exact ⟨v, rfl⟩
  obtain ⟨_, rest, _, rfl, hname, run, v, gs, rfl, hend⟩ := starts_append.mp h
  obtain ⟨_, name, _, _, rfl, -, hcolon, hgroup⟩ := reads_append.mp hname
  obtain ⟨rfl, -⟩ := reads_char.mp hcolon
  obtain ⟨_, -, hfew⟩ := reads_group.mp hgroup
  obtain ⟨hvisible, -⟩ := reads_few.mp hfew
  cases name with
  | cons c name => exact ⟨c, _, rfl, by simpa using hvisible c (by simp)⟩
  | nil =>
    have hstarts : ∀ {a : Pattern} {pre gs}, a.Reads pre run v gs → a.Starts pre (run ++ v) :=
      fun h => ⟨run, v, _, rfl, h⟩
    rcases reads_orElse.mp hend with hdash | hcolon
    · obtain ⟨w, hw⟩ := first (starts_left (starts_left (hstarts hdash)))
      exact ⟨'-', w, by simp [hw], by decide⟩
    · obtain ⟨w, hw⟩ := first (hstarts hcolon)
      exact ⟨':', w, by simp [hw], by decide⟩

theorem quiet_code_of_not_mem (hx : ':' ∉ x) (pre t : Text) : code.Quiet pre x t := by
  refine quiet_of_forall fun c hc u v hstarts => hx ?_
  obtain ⟨_, _, heq, -⟩ := starts_code hstarts
  rwa [← (List.cons.inj heq).1]

theorem replace_eq_weave (t : Text) : replace t = weave (code.pieces t) (code.found t) := by
  unfold replace
  split
  · rfl
  · next hcolon =>
    have hcolon : ':' ∉ t := by simpa using hcolon
    have hquiet : code.foundBehind [] t = [] := foundBehind_of_quiet (quiet_code_of_not_mem hcolon _ _)
    rw [pieces, found_eq_foundBehind, hquiet, between, weave, List.flatten_singleton]
    · simp

theorem replace_of_not_mem (h : ':' ∉ t) : replace t = t := by
  unfold replace
  rw [if_neg (by simpa using h)]

theorem replacement_shift (m : Match) (n : Nat) : replacement (m.shift n) = replacement m := by
  have groups : (m.shift n).groupText = m.groupText := rfl
  have text : (m.shift n).text = m.text := rfl
  -- Opened as a function: a look into its value would have the whole table evaluated.
  generalize hf : replacement = f
  delta replacement at hf
  subst hf
  beta_reduce
  rw [groups, text]

theorem weave_map_shift (ts : List Text) (ms : List Match) (n : Nat) :
    weave ts (ms.map (Match.shift n)) = weave ts ms := by
  induction ts generalizing ms with
  | nil => cases ms <;> rfl
  | cons t ts ih =>
    cases ms with
    | nil => rfl
    | cons m ms => rw [List.map_cons, weave, weave, replacement_shift, ih]

/-- A text without codes stays as it is, and does not change what follows it. -/
theorem replace_append (hx : code.Quiet [] x t) : replace (x ++ t) = x ++ replace t := by
  obtain ⟨p, ps, hpieces⟩ := exists_pieces_eq_cons code t
  rw [replace_eq_weave, replace_eq_weave, pieces_append_of_quiet edgeFree_code hx,
    found_append_of_quiet edgeFree_code hx, weave_map_shift, hpieces, List.modifyHead_cons]
  cases code.found t with
  | nil => simp [weave]
  | cons m ms => simp [weave]

end Emoji

/-! ## Tags -/

namespace Markup

theorem edgeFree_tag : tag.EdgeFree :=
  ⟨⟨⟨trivial, trivial⟩, trivial, trivial⟩, trivial⟩

/-- A tag starts with its bracket or a backslash before it. -/
theorem starts_tag {pre : Text} (h : tag.Starts pre t) : ∃ c u, t = c :: u ∧ (c = '[' ∨ c = '\\') := by
  obtain ⟨run, u, gs, rfl, hslashes, hbracket⟩ := starts_append.mp (starts_left (starts_left h))
  obtain ⟨_, -, hmany⟩ := reads_group.mp hslashes
  obtain ⟨hrun, -⟩ := reads_many.mp hmany
  cases run with
  | cons c run => exact ⟨c, run ++ u, rfl, .inr (by simpa using hrun c (by simp))⟩
  | nil =>
    obtain ⟨run, v, gs, rfl, hreads⟩ := hbracket
    obtain ⟨rfl, -⟩ := reads_char.mp hreads
    exact ⟨'[', v, rfl, .inl rfl⟩

/-- In a text without brackets and backslashes there is no tag. -/
theorem quiet_tag (hx : ∀ c ∈ x, c ≠ '[' ∧ c ≠ '\\') (pre t : Text) : tag.Quiet pre x t := by
  refine quiet_of_forall fun c hc u v hstarts => ?_
  obtain ⟨d, w, heq, hd⟩ := starts_tag hstarts
  obtain ⟨rfl, -⟩ := List.cons.inj heq
  exact hd.elim (hx c hc).1 (hx c hc).2

/-- A tag without backslashes before it is read up to its closing bracket. -/
theorem readsFirst_tag {name : Text} (hc : isTagStart c) (hname : ∀ e ∈ name, e ≠ '[' ∧ e ≠ ']')
    (pre rest : Text) : tag.ReadsFirst pre ('[' :: c :: name ++ [']']) rest [[], c :: name] := by
  have slashes : (group (many (· == '\\'))).ReadsFirst pre [] ('[' :: (c :: name ++ [']']) ++ rest) [[]] :=
    .group (.many (by simp) (by simp))
  have bracket : (char '[').ReadsFirst (pre ++ []) ['['] ((c :: name ++ [']']) ++ rest) [] := .char
  have close : (char ']').ReadsFirst (pre ++ ([] ++ ['[']) ++ c :: name) [']'] rest [] := .char
  have inside : (group (one isTagStart ++ few (· != '[')) ++ char ']').ReadsFirst (pre ++ ([] ++ ['[']))
      (c :: name ++ [']']) rest [c :: name] := by
    refine .group_one_few_append hc (fun e he => by simpa using (hname e he).1) close ?_
    rintro y (_ | ⟨e, z⟩) rfl hz ⟨run, u, gs, heq, hreads⟩
    · exact hz rfl
    · obtain ⟨rfl, -⟩ := reads_char.mp hreads
      obtain ⟨rfl, -⟩ := List.cons.inj heq
      exact (hname ']' (by simp)).2 rfl
  exact ReadsFirst.assoc.mpr (.andThen (.andThen slashes bracket) inside)

/-! ## Parts -/

theorem weave_map_shift (ts : List Text) (ms : List Match) (n : Nat) :
    weave ts (ms.map (Match.shift n)) = weave ts ms := by
  have same : ∀ m : Match, partsOfMatch (m.shift n) = partsOfMatch m := fun _ => rfl
  induction ts generalizing ms with
  | nil => cases ms <;> rfl
  | cons t ts ih =>
    cases ms with
    | nil => rfl
    | cons m ms => rw [List.map_cons, weave, weave, same, ih]

/-- A tag at the start of a message is its first part. -/
theorem parts_tag {name : Text} (hc : isTagStart c) (hname : ∀ e ∈ name, e ≠ '[' ∧ e ≠ ']') (t : Text) :
    parts (('[' :: c :: name ++ [']']) ++ t) = partOfTag (c :: name) :: parts t := by
  have first : tag.ReadsFirst ([] ++ []) ('[' :: c :: name ++ [']']) t [[], c :: name] :=
    readsFirst_tag hc hname [] t
  have found : tag.found (('[' :: c :: name ++ [']']) ++ t) =
      ⟨0, '[' :: c :: name ++ [']'], [[], c :: name]⟩ ::
        tag.foundBehind ('[' :: c :: name ++ [']']) t :=
    foundBehind_of_readsFirst .nil (by simp) first
  have pieces : tag.pieces (('[' :: c :: name ++ [']']) ++ t) =
      [] :: tag.piecesBehind ('[' :: c :: name ++ [']']) t :=
    piecesBehind_of_readsFirst .nil (by simp) first
  have rest : ∀ pre, tag.piecesBehind pre t = tag.pieces t := by
    intro pre
    have shifted := between_map_shift t (tag.found t) pre.length 0
    rw [Nat.zero_add] at shifted
    rw [piecesBehind, foundBehind_of_edgeFree edgeFree_tag, shifted, Pattern.pieces]
  rw [parts, found, pieces, weave, rest, foundBehind_of_edgeFree edgeFree_tag, weave_map_shift]
  rfl

/-- The parts of a message without tags. -/
theorem parts_of_found_eq_nil (h : tag.found t = []) : parts t = if t.isEmpty then [] else [.shown t] := by
  rw [parts, Pattern.pieces, h, between, weave]
  · cases t <;> rfl
  · simp

theorem unescape_append (hx : '\\' ∉ x) (y : Text) : unescape (x ++ y) = x ++ unescape y := by
  induction x with
  | nil => rfl
  | cons c x ih =>
    have hc : c ≠ '\\' := fun hc => hx (by simp [hc])
    rw [List.cons_append, unescape, ih fun hmem => hx (List.mem_cons_of_mem c hmem)]
    · rfl
    · rintro rest rfl
      exact absurd rfl hc

theorem unescape_of_not_mem (h : '[' ∉ t) : unescape t = t := by
  fun_induction unescape t with
  | case1 => rfl
  | case2 rest ih => simp at h
  | case3 c rest hc ih => rw [ih fun hmem => h (List.mem_cons_of_mem c hmem)]

/-- A text between tags is shown with its pictographs. -/
theorem showParts_text (s : Styles) (opened : List Tag) (p : Text) (rest : List Part) :
    showParts s opened ((if p.isEmpty then [] else [.shown p]) ++ rest) =
      (showParts s opened rest).map (Emoji.replace (unescape p) ++ ·) := by
  cases p with
  | nil =>
    have nothing : Emoji.replace (unescape []) = [] := rfl
    rw [nothing]
    simp
  | cons c p => rfl

/-- Whether a text is shown as it is, and has no influence on what follows it. -/
structure IsPlain (x : Text) : Prop where
  /-- No tag starts in it. -/
  tagless : ∀ c ∈ x, c ≠ '[' ∧ c ≠ '\\'
  /-- No name of a pictograph starts in it. -/
  codeless : ∀ pre t, Emoji.code.Quiet pre x t
  /-- It has no controls. -/
  printable : Wrap.dropControls x = x

/-- Whether a character has no part in tags and codes and is no control. -/
def isOrdinary (c : Char) : Bool :=
  c != '[' && c != '\\' && c != ':' && 31 < c.toNat

theorem isPlain_of_isOrdinary (h : x.all isOrdinary) : IsPlain x := by
  have ordinary : ∀ c ∈ x, c ≠ '[' ∧ c ≠ '\\' ∧ c ≠ ':' ∧ 31 < c.toNat := by
    simpa [isOrdinary, and_assoc] using h
  refine ⟨fun c hc => ⟨(ordinary c hc).1, (ordinary c hc).2.1⟩, fun pre t => ?_, ?_⟩
  · exact Emoji.quiet_code_of_not_mem (fun hmem => (ordinary _ hmem).2.2.1 rfl) pre t
  · refine List.filter_eq_self.mpr fun c hc => ?_
    have hcontrol := (ordinary c hc).2.2.2
    simp
    omega

/-- A colon is plain in front of a blank. -/
theorem isPlain_colon : IsPlain [':', ' '] where
  tagless := by simp
  codeless := by
    intro pre t
    have behind : Emoji.code.Quiet (pre ++ [':']) [' '] t := Emoji.quiet_code_of_not_mem (by decide) _ t
    have here : Emoji.code.Quiet pre [':'] ([' '] ++ t) := by
      rintro (_ | ⟨d, y⟩) z hyz hz hstarts
      · obtain rfl : [':'] = z := hyz
        obtain ⟨c, u, heq, hvisible⟩ := Emoji.starts_code hstarts
        obtain ⟨-, rfl, -⟩ : ':' = ':' ∧ ' ' = c ∧ t = u := by simpa using heq
        exact hvisible (by decide)
      · obtain ⟨-, -, rfl⟩ : ':' = d ∧ y = [] ∧ z = [] := by simpa using hyz
        exact hz rfl
    exact here.append behind
  printable := by decide

theorem IsPlain.append (hx : IsPlain x) (hy : IsPlain y) : IsPlain (x ++ y) where
  tagless := by
    intro c hc
    exact (List.mem_append.mp hc).elim (hx.tagless c) (hy.tagless c)
  codeless := fun pre t => (hx.codeless pre (y ++ t)).append (hy.codeless (pre ++ x) t)
  printable := by
    rw [Wrap.dropControls, List.filter_append]
    exact congrArg₂ _ hx.printable hy.printable

/-- Plain text in front of markup joins what the markup shows first. -/
theorem showParts_append (hx : IsPlain x) (s : Styles) (opened : List Tag) (t : Text) :
    showParts s opened (parts (x ++ t)) = (showParts s opened (parts t)).map (x ++ ·) := by
  have joined : ∀ p, Emoji.replace (unescape (x ++ p)) = x ++ Emoji.replace (unescape p) := by
    intro p
    rw [unescape_append fun hmem => (hx.tagless _ hmem).2 rfl, Emoji.replace_append (hx.codeless _ _)]
  have hquiet := quiet_tag hx.tagless [] t
  have hfound := found_append_of_quiet edgeFree_tag hquiet
  cases h : tag.found t with
  | nil =>
    rw [h] at hfound
    have alone := showParts_text s opened t []
    have whole := showParts_text s opened (x ++ t) []
    rw [List.append_nil] at alone whole
    rw [parts_of_found_eq_nil hfound, parts_of_found_eq_nil h, alone, whole, joined, Option.map_map]
    congr 1
    funext shown
    exact List.append_assoc x _ shown
  | cons m ms =>
    obtain ⟨p, ps, hpieces⟩ := exists_pieces_eq_cons tag t
    rw [parts, parts, hfound, pieces_append_of_quiet edgeFree_tag hquiet, weave_map_shift, hpieces, h,
      List.modifyHead_cons, weave, weave, List.append_assoc, List.append_assoc, showParts_text,
      showParts_text, joined, Option.map_map]
    congr 1
    funext shown
    exact List.append_assoc x _ shown

theorem plain?_append (hx : IsPlain x) (s : Styles) (t : Text) :
    plain? s (x ++ t) = (plain? s t).map (x ++ ·) := by
  rw [plain?, showParts_append hx, plain?, Option.map_map, Option.map_map]
  congr 1
  funext shown
  have dropped : Wrap.dropControls (x ++ shown) = _ := List.filter_append x shown
  exact dropped.trans (congrArg (· ++ _) hx.printable)

/-- Whether a character is a lower case letter from `a` to `z`. -/
def isLetter (c : Char) : Bool :=
  'a' ≤ c && c ≤ 'z'

theorem ne_of_isLetter {d : Char} (hc : isLetter c) (hd : ¬ isLetter d) : c ≠ d := by
  rintro rfl
  exact hd hc

theorem not_isBlank_of_isLetter (hc : isLetter c) : ¬ isBlank c := by
  have hbounds : 'a'.toNat ≤ c.toNat ∧ c.toNat ≤ 'z'.toNat := by
    simpa [isLetter, Char.le_def, UInt32.le_iff_toNat_le] using hc
  have hlow : 'a'.toNat = 0x61 := rfl
  have hhigh : 'z'.toNat = 0x7A := rfl
  unfold isBlank
  simp only [Bool.or_eq_true, Bool.and_eq_true, decide_eq_true_eq]
  omega

/-- A tag of letters opens the style of its name, and the tag with a slash before them closes it. -/
theorem showParts_styled {name : Text} (hletters : ∀ e ∈ c :: name, isLetter e) (hx : IsPlain x)
    (s : Styles) (t : Text) :
    showParts s [] (parts (('[' :: c :: name ++ [']']) ++ (x ++ (('[' :: '/' :: c :: name ++ [']']) ++ t)))) =
      (showParts s [] (parts t)).map (x ++ ·) := by
  have hc := hletters c List.mem_cons_self
  have hshut : ∀ e ∈ c :: name, e ≠ '[' ∧ e ≠ ']' := fun e he =>
    ⟨ne_of_isLetter (hletters e he) (by decide), ne_of_isLetter (hletters e he) (by decide)⟩
  have hstart : isTagStart c := by
    unfold isTagStart
    rw [show ('a' ≤ c && c ≤ 'z') = true from hc]
    rfl
  have hwhole : (c :: name).takeWhile (· != '=') = c :: name :=
    List.takeWhile_eq_self_iff.mpr fun e he => by simpa using ne_of_isLetter (hletters e he) (by decide)
  have hwhole' : ('/' :: c :: name).takeWhile (· != '=') = '/' :: c :: name := by
    rw [List.takeWhile_cons_of_pos (by decide), hwhole]
  have htrim : trim (c :: name) = c :: name :=
    trim_eq_self (fun e he => not_isBlank_of_isLetter (hletters e (List.mem_of_mem_head? he)))
      fun e he => not_isBlank_of_isLetter (hletters e (List.mem_of_mem_getLast? he))
  have opening : partOfTag (c :: name) = .opened ⟨c :: name, []⟩ := by
    unfold partOfTag
    rw [hwhole]
    dsimp only
    split
    · next heq => exact absurd (List.cons.inj heq).1 (ne_of_isLetter hc (by decide))
    · rw [List.drop_of_length_le (by simp)]
  have closing : partOfTag ('/' :: c :: name) = .closed (some (c :: name)) := by
    unfold partOfTag
    rw [hwhole']
    show Part.closed (if (trim (c :: name)).isEmpty then none else some (trim (c :: name))) = _
    rw [htrim]
    rfl
  have hclose : close? (some (s.known (c :: name))) [s.resolve ⟨c :: name, []⟩] =
      some (s.resolve ⟨c :: name, []⟩, []) :=
    if_pos (by simp [Styles.resolve])
  have hcloses : s.closes (s.resolve ⟨c :: name, []⟩) = true := by
    simp [Styles.closes, Styles.resolve]
  rw [parts_tag hstart (fun e he => hshut e (List.mem_cons_of_mem c he)), opening, showParts,
    showParts_append hx, parts_tag (c := '/') (by decide) hshut, closing, showParts, Option.map_some, hclose]
  dsimp only
  rw [if_pos hcloses]

/-- Plain text in a style of its own is shown as it is in front of any markup. -/
theorem plain?_styled {name : Text} (hletters : ∀ e ∈ c :: name, isLetter e) (hx : IsPlain x) (s : Styles)
    (t : Text) :
    plain? s (('[' :: c :: name ++ [']']) ++ (x ++ (('[' :: '/' :: c :: name ++ [']']) ++ t))) =
      (plain? s t).map (x ++ ·) := by
  rw [plain?, showParts_styled hletters hx, ← showParts_append hx, ← plain?, plain?_append hx]

theorem mem_of_starts_tag {pre : Text} (h : tag.Starts pre t) : '[' ∈ t := by
  obtain ⟨run, u, gs, rfl, -, hbracket⟩ := starts_append.mp (starts_left (starts_left h))
  obtain ⟨run, v, gs, rfl, hreads⟩ := hbracket
  obtain ⟨rfl, -⟩ := reads_char.mp hreads
  simp

/-- A message without brackets is shown with its pictographs. -/
theorem plain?_of_not_mem (h : '[' ∉ t) (s : Styles) :
    plain? s t = some (Wrap.dropControls (Emoji.replace t)) := by
  have hquiet : tag.Quiet [] t [] := by
    rintro y z rfl - hstarts
    have hmem := mem_of_starts_tag hstarts
    rw [List.append_nil] at hmem
    exact h (List.mem_append_right y hmem)
  have alone := showParts_text s [] t []
  rw [List.append_nil] at alone
  rw [plain?, parts_of_found_eq_nil (foundBehind_of_quiet hquiet), alone, unescape_of_not_mem h]
  simp [showParts]

/-- A message without brackets, colons and controls is shown as it is. -/
theorem plain?_eq_self (hbracket : '[' ∉ t) (hcolon : ':' ∉ t) (hcontrol : Wrap.dropControls t = t)
    (s : Styles) : plain? s t = some t := by
  rw [plain?_of_not_mem hbracket, Emoji.replace_of_not_mem hcolon, hcontrol]

end Markup

end Kudos
