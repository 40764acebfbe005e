import Mathlib
import Kudos.Proofs.Pattern.Found

/-!
# Matches on either side of a character

A pattern that reads some characters only stops at another one, and where that is part of no word, a
word ends before it as at the end of a text (`Stops`). So the search takes the same way in a text that
goes on there as in the part before, which is shown for places that look alike (`Cursor.Alike`).

Behind a newline a line starts, as at the start of a text. So a pattern that reads no newline finds in
two texts with a newline between them what it finds in each of them (`found_append_newline`). A pattern
that does not look at edges finds the same behind any text (`foundBehind_of_edgeFree`).
-/

namespace Kudos.Pattern

open Text (isWord)

variable {α β : Type} {edges : Prop} {a : Pattern} {p : Char → Bool} {q : Char → Prop} {e : Char}
  {c d : Cursor} {R : α → β → Prop}
  {t tail pre x y : Text} {before before' : Option Char} {gs : List Text} {m : Match} {n k : Nat}

/-! ## Places that look alike -/

/-- Whether a pattern sees the same at two places, of which the edges count or not. The text from the
first on may go on behind that from the second. -/
structure Cursor.Alike (edges : Prop) (tail : Text) (c d : Cursor) : Prop where
  rest : c.rest = d.rest ++ tail
  groups : c.groups = d.groups
  /-- The lines start alike. -/
  lineStart : edges → c.atLineStart = d.atLineStart
  /-- The words end alike. -/
  word : edges → c.before.any isWord = d.before.any isWord

theorem Cursor.Alike.of_before (before : Option Char) (t : Text) (gs : List Text) :
    Cursor.Alike edges tail ⟨before, t ++ tail, gs⟩ ⟨before, t, gs⟩ :=
  ⟨rfl, rfl, fun _ => rfl, fun _ => rfl⟩

theorem Cursor.Alike.exists_eq (h : Cursor.Alike edges tail c d) : ∃ before before' t gs,
    c = ⟨before, t ++ tail, gs⟩ ∧ d = ⟨before', t, gs⟩ :=
  ⟨c.before, d.before, d.rest, d.groups, by rw [← h.rest, ← h.groups], rfl⟩

/-- Whether a text starts with no character of a class and none of a word, or is empty. -/
def Stops (q : Char → Prop) (tail : Text) : Prop :=
  ∀ e ∈ tail.head?, ¬ q e ∧ isWord e = false

theorem stops_nil : Stops q [] := by
  simp [Stops]

theorem stops_cons : Stops q (e :: tail) ↔ ¬ q e ∧ isWord e = false := by
  simp [Stops]

/-- What lies between two places is the same where they look alike. -/
theorem Cursor.Alike.upTo {c' d' : Cursor} (h : Cursor.Alike edges tail c d) (h' : Cursor.Alike edges tail c' d') :
    c.upTo c' = d.upTo d' := by
  have length : (d.rest ++ tail).length - (d'.rest ++ tail).length = d.rest.length - d'.rest.length := by
    simp only [List.length_append]
    omega
  unfold Cursor.upTo
  rw [h.rest, h'.rest, length, List.take_append_of_le_length (Nat.sub_le _ _)]

theorem not_isWord_newline : isWord '\n' = false := by decide

theorem any_isWord_head? (h : Stops q tail) (t : Text) :
    (t ++ tail).head?.any isWord = t.head?.any isWord := by
  cases t with
  | cons c t => rfl
  | nil =>
    cases tail with
    | nil => rfl
    | cons c tail => exact (stops_cons.mp h).2

theorem rel_or {u v : Option α} {u' v' : Option β} (h : Option.Rel R u u') (h' : Option.Rel R v v') :
    Option.Rel R (u.or v) (u'.or v') := by
  cases h with
  | some hR => exact .some hR
  | none => exact h'

theorem rel_bind {γ δ : Type} {u : Option α} {u' : Option β} {f : α → Option γ} {g : β → Option δ}
    {S : γ → δ → Prop} (h : Option.Rel R u u') (hfg : ∀ v v', R v v' → Option.Rel S (f v) (g v')) :
    Option.Rel S (u.bind f) (u'.bind g) := by
  cases h with
  | some hR => exact hfg _ _ hR
  | none => exact .none

theorem map_eq_of_rel {γ : Type} {u : Option α} {u' : Option β} {f : α → γ} {g : β → γ}
    (h : Option.Rel R u u') (hfg : ∀ v v', R v v' → f v = g v') : u.map f = u'.map g := by
  cases h with
  | some hR => exact congrArg some (hfg _ _ hR)
  | none => rfl

theorem runShortest_cons {k : Cursor → Option α} {e : Char} :
    runShortest p gs k before (e :: t) =
      (k ⟨before, e :: t, gs⟩).or (if p e then runShortest p gs k (some e) t else none) := by
  rw [runShortest]
  cases k ⟨before, e :: t, gs⟩ <;> rfl

section

variable {k : Cursor → Option α} {k' : Cursor → Option β}

/-- The runs that are offered are the same, the longest first. -/
theorem runLongest_alike (hp : ∀ c, p c → q c) (htail : Stops q tail)
    (hk : ∀ c d, Cursor.Alike edges tail c d → Option.Rel R (k c) (k' d))
    (h : Cursor.Alike edges tail ⟨before, t ++ tail, gs⟩ ⟨before', t, gs⟩) :
    Option.Rel R (runLongest p gs k before (t ++ tail)) (runLongest p gs k' before' t) := by
  have here := hk _ _ h
  induction t generalizing before before' with
  | nil =>
    have refused : runLongest p gs k before ([] ++ tail) = k ⟨before, [] ++ tail, gs⟩ := by
      cases tail with
      | nil => rfl
      | cons e tail => exact if_neg fun he => (stops_cons.mp htail).1 (hp e he)
    rw [refused]
    exact here
  | cons e t ih =>
    rw [List.cons_append, runLongest, runLongest]
    split
    · exact rel_or (ih (.of_before (some e) t gs) (hk _ _ (.of_before (some e) t gs))) here
    · exact here

/-- The same, the shortest first. -/
theorem runShortest_alike (hp : ∀ c, p c → q c) (htail : Stops q tail)
    (hk : ∀ c d, Cursor.Alike edges tail c d → Option.Rel R (k c) (k' d))
    (h : Cursor.Alike edges tail ⟨before, t ++ tail, gs⟩ ⟨before', t, gs⟩) :
    Option.Rel R (runShortest p gs k before (t ++ tail)) (runShortest p gs k' before' t) := by
  have here := hk _ _ h
  induction t generalizing before before' with
  | nil =>
    have refused : runShortest p gs k before ([] ++ tail) = k ⟨before, [] ++ tail, gs⟩ := by
      cases tail with
      | nil => rfl
      | cons e tail =>
        have stop : ¬ p e := fun he => (stops_cons.mp htail).1 (hp e he)
        rw [List.nil_append, runShortest_cons, if_neg stop, Option.or_none]
    rw [refused]
    exact here
  | cons e t ih =>
    rw [List.cons_append, runShortest_cons, runShortest_cons]
    refine rel_or here ?_
    split
    · exact ih (.of_before (some e) t gs) (hk _ _ (.of_before (some e) t gs))
    · exact .none

theorem skip?_alike (ht : ∀ e ∈ t, q e) (htail : Stops q tail)
    (h : Cursor.Alike edges tail c d) : Option.Rel (Cursor.Alike edges tail) (c.skip? t) (d.skip? t) := by
  induction t generalizing c d with
  | nil => exact .some h
  | cons x t ih =>
    obtain ⟨before, before', rest, gs, rfl, rfl⟩ := h.exists_eq
    cases rest with
    | nil =>
      have stop : Cursor.skip? ⟨before, [] ++ tail, gs⟩ (x :: t) = none := by
        cases tail with
        | nil => rfl
        | cons e tail =>
          refine if_neg fun heq => (stops_cons.mp htail).1 ?_
          exact heq ▸ ht x (by simp)
      rw [stop]
      exact .none
    | cons e rest =>
      simp only [Cursor.skip?, List.cons_append]
      split
      · exact ih (fun e he => ht e (by simp [he])) (.of_before (some e) rest gs)
      · exact .none

/-- The search takes the same way from places that look alike. -/
theorem tryWith_alike (ha : a.ReadsOnly q) (hedges : edges ∨ a.EdgeFree) (htail : Stops q tail)
    (hk : ∀ c d, Cursor.Alike edges tail c d → Option.Rel R (k c) (k' d)) (h : Cursor.Alike edges tail c d) :
    Option.Rel R (a.tryWith c k) (a.tryWith d k') := by
  induction a generalizing c d k k' with
  | one p =>
    obtain ⟨before, before', rest, gs, rfl, rfl⟩ := h.exists_eq
    cases rest with
    | nil =>
      have stop : (one p).tryWith ⟨before, [] ++ tail, gs⟩ k = none := by
        cases tail with
        | nil => rfl
        | cons e tail => exact if_neg fun he => (stops_cons.mp htail).1 (ha e he)
      rw [stop]
      exact .none
    | cons e rest =>
      simp only [tryWith_one_cons, List.cons_append]
      split
      · exact hk _ _ (.of_before (some e) rest gs)
      · exact .none
  | literal t => exact rel_bind (skip?_alike ha htail h) hk
  | many p =>
    obtain ⟨before, before', rest, gs, rfl, rfl⟩ := h.exists_eq
    exact runLongest_alike ha htail hk h
  | few p =>
    obtain ⟨before, before', rest, gs, rfl, rfl⟩ := h.exists_eq
    exact runShortest_alike ha htail hk h
  | andThen a b iha ihb =>
    refine iha ha.1 (hedges.imp_right And.left) (fun c d hcd => ?_) h
    exact ihb ha.2 (hedges.imp_right And.right) hk hcd
  | orElse a b iha ihb =>
    rw [tryWith_orElse, tryWith_orElse]
    exact rel_or (iha ha.1 (hedges.imp_right And.left) hk h)
      (ihb ha.2 (hedges.imp_right And.right) hk h)
  | group a iha =>
    refine iha ha hedges (fun c' d' hcd => hk _ _ ?_) h
    exact ⟨hcd.rest, by rw [hcd.groups, h.upTo hcd], hcd.lineStart, hcd.word⟩
  | lineStart =>
    rw [tryWith_lineStart, tryWith_lineStart, h.lineStart (hedges.resolve_right id)]
    split
    · exact hk _ _ h
    · exact .none
  | wordEdge =>
    have edge : c.atWordEdge = d.atWordEdge := by
      unfold Cursor.atWordEdge
      rw [h.word (hedges.resolve_right id), h.rest, any_isWord_head? htail]
    rw [tryWith_wordEdge, tryWith_wordEdge, edge]
    split
    · exact hk _ _ h
    · exact .none

end

/-- The match is the same at places that look alike. -/
theorem matchHere_alike (ha : a.ReadsOnly q) (hedges : edges ∨ a.EdgeFree) (htail : Stops q tail)
    (h : Cursor.Alike edges tail ⟨before, t ++ tail, []⟩ ⟨before', t, []⟩) :
    a.matchHere before (t ++ tail) n = a.matchHere before' t n := by
  have ends : Option.Rel (Cursor.Alike edges tail) (a.matchAt ⟨before, t ++ tail, []⟩)
      (a.matchAt ⟨before', t, []⟩) :=
    tryWith_alike ha hedges htail (fun c d hcd => .some hcd) h
  exact map_eq_of_rel ends fun c d hcd => by rw [h.upTo hcd, hcd.groups]

/-! ## Matches in texts put together -/

/-- The match behind further characters. -/
def Match.shift (n : Nat) (m : Match) : Match :=
  { m with start := m.start + n }

theorem matchHere_shift : a.matchHere before t (k + n) = (a.matchHere before t k).map (Match.shift n) := by
  unfold matchHere
  rw [Option.map_map]
  rfl

theorem foundFrom_shift (skip : Nat) :
    a.foundFrom before t (k + n) skip = (a.foundFrom before t k skip).map (Match.shift n) := by
  induction t generalizing before k skip with
  | nil => simp [foundFrom]
  | cons c t ih =>
    have next : k + n + 1 = k + 1 + n := by omega
    cases skip with
    | succ skip => rw [foundFrom, foundFrom, next, ih]
    | zero =>
      rw [foundFrom, foundFrom, matchHere_shift, next]
      cases a.matchHere before (c :: t) k with
      | none => exact ih 0
      | some m =>
        dsimp only [Option.map_some, Match.shift]
        cases m.text.length with
        | zero => exact ih 0
        | succ len => exact congrArg _ (ih len)

/-- Behind a newline the search finds what it finds in the text alone. -/
theorem foundBehind_newline (ha : a.ReadsOnly (· ≠ '\n')) (x y : Text) :
    a.foundBehind (x ++ ['\n']) y = (a.found y).map (Match.shift (x.length + 1)) := by
  have start : a.foundFrom (some '\n') y 0 0 = a.foundFrom none y 0 0 := by
    cases y with
    | nil => rfl
    | cons c y =>
      have alike : Cursor.Alike True [] ⟨some '\n', c :: y ++ [], []⟩ ⟨none, c :: y, []⟩ :=
        ⟨rfl, rfl, fun _ => rfl, fun _ => by simp [not_isWord_newline]⟩
      have here := matchHere_alike (n := 0) ha (.inl trivial) stops_nil alike
      rw [List.append_nil] at here
      rw [foundFrom, foundFrom, here]
  have last : (x ++ ['\n']).getLast? = some '\n' := by simp
  have length : (x ++ ['\n']).length = 0 + (x.length + 1) := by simp
  rw [foundBehind, last, length, foundFrom_shift, start]
  rfl

/-- The search finds what it finds before a character at which the pattern stops, and then goes on
behind it. -/
theorem foundBehind_append_stop (ha : a.ReadsOnly q) (he : ¬ q e) (hword : isWord e = false)
    (pre x y : Text) :
    a.foundBehind pre (x ++ e :: y) = a.foundBehind pre x ++ a.foundBehind (pre ++ x ++ [e]) y := by
  have same : ∀ pre x : Text, a.matchHere pre.getLast? (x ++ e :: y) pre.length =
      a.matchHere pre.getLast? x pre.length := fun pre x =>
    matchHere_alike ha (.inl trivial) (stops_cons.mpr ⟨he, hword⟩) (.of_before _ x [])
  induction pre, x using foundBehind_induction a with
  | nil pre =>
    rw [List.nil_append, foundBehind_nil, List.nil_append, List.append_nil]
    refine foundBehind_cons fun m hm => ?_
    -- A match at the character would read it.
    obtain ⟨rest, hsplit, hreads, -⟩ := reads_of_matchHere hm
    cases htext : m.text with
    | nil => rfl
    | cons c run =>
      rw [htext] at hsplit hreads
      obtain rfl : e = c := (List.cons.inj hsplit).1
      exact absurd (hreads.forall_mem ha e (by simp)) he
  | pass pre c x hm ih =>
    have hm' : ∀ m, a.matchHere pre.getLast? (c :: (x ++ e :: y)) pre.length = some m →
        m.text = [] := by
      rw [← List.cons_append, same]
      exact hm
    rw [List.cons_append, foundBehind_cons hm', foundBehind_cons hm, ih]
    simp
  | hit pre run rest gs hne hm ih =>
    have hm' := hm
    rw [← same, List.append_assoc] at hm'
    rw [List.append_assoc, foundBehind_of_match hne hm', foundBehind_of_match hne hm, ih]
    simp

/-- The matches in two texts with a newline between them are those in the first one and those in the
second one. -/
theorem found_append_newline (ha : a.ReadsOnly (· ≠ '\n')) (x y : Text) :
    a.found (x ++ '\n' :: y) = a.found x ++ (a.found y).map (Match.shift (x.length + 1)) := by
  rw [found_eq_foundBehind, foundBehind_append_stop ha (by simp) not_isWord_newline, List.nil_append,
    foundBehind_newline ha]
  rfl

/-- At the end of a text such a character changes nothing. -/
theorem found_concat_stop (ha : a.ReadsOnly q) (he : ¬ q e) (hword : isWord e = false) (x : Text) :
    a.found (x ++ [e]) = a.found x := by
  rw [found_eq_foundBehind, foundBehind_append_stop ha he hword, foundBehind_nil, List.append_nil]
  rfl

/-! ## Patterns that do not look at edges -/

/-- Such a pattern matches the same behind any character. -/
theorem matchHere_of_edgeFree (ha : a.EdgeFree) (before before' : Option Char) (t : Text) (n : Nat) :
    a.matchHere before t n = a.matchHere before' t n := by
  have alike : Cursor.Alike False [] ⟨before, t ++ [], []⟩ ⟨before', t, []⟩ :=
    ⟨rfl, rfl, False.elim, False.elim⟩
  have here := matchHere_alike (n := n) (a.readsOnly_of_forall fun _ => trivial) (.inr ha) stops_nil alike
  rwa [List.append_nil] at here

/-- Such a pattern finds behind any text what it finds in the text alone. -/
theorem foundBehind_of_edgeFree (ha : a.EdgeFree) (pre t : Text) :
    a.foundBehind pre t = (a.found t).map (Match.shift pre.length) := by
  have start : a.foundFrom pre.getLast? t 0 0 = a.foundFrom none t 0 0 := by
    cases t with
    | nil => rfl
    | cons c t => rw [foundFrom, foundFrom, matchHere_of_edgeFree ha pre.getLast? none]
  have shifted : a.foundFrom pre.getLast? t (0 + pre.length) 0 =
      (a.foundFrom pre.getLast? t 0 0).map (Match.shift pre.length) := foundFrom_shift 0
  rw [Nat.zero_add, start] at shifted
  exact shifted

theorem between_map_shift (t : Text) (ms : List Match) (n k : Nat) :
    between t (k + n) (ms.map (Match.shift n)) = between t k ms := by
  induction ms generalizing t k with
  | nil => rfl
  | cons m ms ih =>
    have stop : (m.shift n).stop = m.stop + n := by
      simp only [Match.stop, Match.shift]
      omega
    rw [List.map_cons, between, between, stop, ih, Match.shift, Nat.add_sub_add_right,
      Nat.add_sub_add_right]

theorem found_append_of_quiet (ha : a.EdgeFree) (hx : a.Quiet [] x t) :
    a.found (x ++ t) = (a.found t).map (Match.shift x.length) := by
  rw [found_eq_foundBehind, foundBehind_append_of_quiet hx, foundBehind_of_edgeFree ha]
  rfl

theorem exists_pieces_eq_cons (a : Pattern) (t : Text) : ∃ p ps, a.pieces t = p :: ps := by
  rw [pieces]
  cases a.found t with
  | nil => exact ⟨t, [], rfl⟩
  | cons m ms => exact ⟨_, _, rfl⟩

/-- A text that is passed over joins the first piece of what follows. -/
theorem pieces_append_of_quiet (ha : a.EdgeFree) (hx : a.Quiet [] x t) :
    a.pieces (x ++ t) = (a.pieces t).modifyHead (x ++ ·) := by
  rw [pieces, found_append_of_quiet ha hx, pieces]
  cases a.found t with
  | nil => rfl
  | cons m ms =>
    have start : (m.shift x.length).start = x.length + m.start := Nat.add_comm _ _
    have stop : (m.shift x.length).stop = x.length + m.stop := by
      simp only [Match.stop, Match.shift]
      omega
    have passed : x.length + m.stop = m.stop + x.length := Nat.add_comm _ _
    rw [List.map_cons, between, between, start, stop, Nat.sub_zero, Nat.sub_zero, Nat.sub_zero,
      Nat.sub_zero, List.take_length_add_append, List.drop_length_add_append, passed, between_map_shift]
    rfl

end Kudos.Pattern
