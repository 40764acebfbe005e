import Mathlib
import Kudos.Proofs.Toml.Values

/-!
# Lines of a configuration

The first pass of the reader leaves the lines of a written configuration as they are. It is followed with
the cursor: `Passes c behind t c'` says that the cursor goes over a text without changing it. A header
and an entry each lead from the start of a line to its end, whatever stands in the marks of a string.
-/

namespace Kudos.Toml

open Text Cursor

variable {c c' c'' : Cursor} {behind t t' : Text} {x : Char} {b : Bool} {v : Toml}

/-- Whether a cursor with some text before it goes over a text as it stands, to another cursor. -/
def Passes (c : Cursor) (behind t : Text) (c' : Cursor) : Prop :=
  ∀ rest, c.passAll behind (t ++ rest) = c'.passAll (t.reverse ++ behind) rest

theorem Passes.refl (c : Cursor) (behind : Text) : Passes c behind [] c :=
  fun _ => rfl

theorem Passes.append (h : Passes c behind t c') (h' : Passes c' (t.reverse ++ behind) t' c'') :
    Passes c behind (t ++ t') c'' := by
  intro rest
  rw [List.append_assoc, h, h', List.reverse_append, List.append_assoc]

theorem passes_single (h : ∀ next, c.pass behind x next = .ok (c', x :: behind)) :
    Passes c behind [x] c' := by
  intro rest
  rw [List.singleton_append, passAll, h]
  rfl

theorem Passes.cons (h : Passes c behind [x] c') (h' : Passes c' (x :: behind) t c'') :
    Passes c behind (x :: t) c'' :=
  h.append h'

/-- Characters that keep the cursor where it is. -/
theorem passes_all (h : ∀ x ∈ t, ∀ behind, Passes c behind [x] c) : Passes c behind t c := by
  induction t generalizing behind with
  | nil => exact .refl c behind
  | cons x t ih =>
    exact (h x List.mem_cons_self behind).cons (ih fun y hy => h y (List.mem_cons_of_mem _ hy))

/-! ## Keys and bare values -/

/-- Within a key. -/
def inKey : Cursor := { key := .inside, atStart := false }

/-- Behind the equals sign. -/
def inValue : Cursor := { atStart := false }

/-- Within a string. -/
def inString : Cursor := { quote := some '"', atStart := false }

/-- Within a header. -/
def inHeader : Cursor := { header := .table, atStart := false }

/-- Outside of keys, comments and strings a character of a bare name is nothing special. -/
theorem pass_of_isBare (hx : isBare x) (hkey : c.key = .outside) (hcomment : c.comment = false)
    (next : Option Char) : c.pass behind x next = do return (← c.passStart x, x :: behind) := by
  have hnewline := ne_of_isBare (d := '\n') hx (by decide)
  have hmark := ne_of_isBare (d := '#') hx (by decide)
  have hopen := ne_of_isBare (d := '[') hx (by decide)
  have hclose := ne_of_isBare (d := ']') hx (by decide)
  have hbracket : c.passBracket behind x next = c := by
    unfold passBracket
    split
    · exact absurd rfl hopen
    · exact absurd rfl hclose
    · exact absurd rfl hclose
    · exact absurd rfl hclose
    · rfl
  unfold Cursor.pass
  rw [if_neg (by simp [hkey]), if_neg hnewline, if_neg (by simp [hcomment]), if_neg (not_isQuote_of_isBare hx),
    if_neg (by simp [hmark]), hbracket]

theorem passes_firstOfKey (hx : isBare x) (behind : Text) : Passes {} behind [x] inKey := by
  refine passes_single fun next => ?_
  have hindent : ¬ isIndent x := fun h => not_isBlank_of_isBare hx (isBlank_of_isIndent h)
  have hequals := ne_of_isBare (d := '=') hx (by decide)
  rw [pass_of_isBare hx rfl rfl]
  simp [passStart, hindent, hequals, inKey, bind, Except.bind, pure, Except.pure]

theorem passes_inKey (hx : isBare x) (behind : Text) : Passes inKey behind [x] inKey := by
  refine passes_single fun next => ?_
  have hnewline := ne_of_isBare (d := '\n') hx (by decide)
  have hdot := ne_of_isBare (d := '.') hx (by decide)
  have hword : isWord x || x = '-' := by simpa using isWord_or_of_isBare hx
  simp [Cursor.pass, passKey, inKey, hnewline, not_isBlank_of_isBare hx, hdot, hword, bind, Except.bind, pure,
    Except.pure]

theorem passes_equals (behind : Text) : Passes inKey behind [' ', '=', ' '] inValue := by
  intro rest
  rfl

theorem passes_inValue (hx : isBare x) (behind : Text) : Passes inValue behind [x] inValue := by
  refine passes_single fun next => ?_
  rw [pass_of_isBare hx rfl rfl]
  rfl

theorem passes_inHeader (hx : isBare x) (behind : Text) : Passes inHeader behind [x] inHeader := by
  refine passes_single fun next => ?_
  rw [pass_of_isBare hx rfl rfl]
  rfl

/-! ## Strings -/

theorem passes_openingMark (behind : Text) : Passes inValue (' ' :: behind) ['"'] inString := by
  intro rest
  rfl

/-- An open backslash stands right before the cursor. -/
theorem takeWhile_of_escapedBehind (h : escapedBehind behind) : behind.takeWhile (· == '"') = [] := by
  cases behind with
  | nil => rfl
  | cons c behind =>
    rw [escapedBehind_cons] at h
    have hc : c = '\\' := by
      by_contra hne
      simp [hne] at h
    simp [hc]

theorem passes_inString (hx : x ≠ '\n') (hmark : x = '"' → escapedBehind behind) :
    Passes inString behind [x] inString := by
  refine passes_single fun next => ?_
  by_cases hquote : isQuote x
  · have hkept : inString.passQuote behind x = inString := by
      unfold passQuote
      by_cases hx : x = '"'
      · subst hx
        have hescaped := hmark rfl
        simp [inString, takeWhile_of_escapedBehind hescaped, hescaped]
      · simp [inString, Ne.symm hx]
    unfold Cursor.pass
    rw [if_neg (by decide), if_neg hx, if_neg (by decide), if_pos hquote, hkept]
    rfl
  · simp [Cursor.pass, hx, hquote, passBracket, passStart, inString, bind, Except.bind, pure, Except.pure]

/-- The mark that closes a string has at most one mark before it. -/
theorem passes_closingMark (hescaped : escapedBehind behind = false)
    (hmarks : (behind.takeWhile (· == '"')).length ≤ 1) : Passes inString behind ['"'] inValue := by
  refine passes_single fun next => ?_
  have hclosed : inString.passQuote behind '"' = inValue := by
    unfold passQuote
    rcases Nat.le_one_iff_eq_zero_or_eq_one.mp hmarks with h | h <;> simp [h, inString, inValue, hescaped]
  unfold Cursor.pass
  rw [if_neg (by decide), if_neg (by decide), if_neg (by decide), if_pos (by decide), hclosed]
  rfl

/-- A string is gone over from behind its opening mark, whatever it is about. -/
theorem passes_escaped (h : Escaped b t) (hescaped : escapedBehind behind = b)
    (hmarks : (behind.takeWhile (· == '"')).length ≤ 1) :
    Passes inString behind (t ++ ['"']) inValue := by
  induction h generalizing behind with
  | nil => exact passes_closingMark hescaped hmarks
  | @self c t hmark hslash hbreak _ ih =>
    refine (passes_inString hbreak.1 fun hc => absurd hc hmark).cons (ih ?_ ?_)
    · simp [escapedBehind_cons, hslash]
    · simp [hmark]
  | @slash t _ ih =>
    refine (passes_inString (by decide) fun hc => absurd hc (by decide)).cons (ih ?_ ?_)
    · simp [escapedBehind_cons, hescaped]
    · simp
  | @letter k t hk _ ih =>
    have hnewline : k ≠ '\n' := by
      rintro rfl
      exact absurd hk (by decide)
    have hnone := takeWhile_of_escapedBehind hescaped
    refine (passes_inString hnewline fun _ => hescaped).cons (ih ?_ ?_)
    · simp [escapedBehind_cons, hescaped]
    · by_cases hc : k = '"' <;> simp [hc, hnone]

/-! ## Whole lines -/

theorem passes_newline (behind : Text) : Passes {} behind ['\n'] {} :=
  passes_single fun _ => rfl

theorem passes_bare (ht : ∀ x ∈ t, isBare x) (behind : Text) : Passes inValue behind t inValue :=
  passes_all fun x hx => passes_inValue (ht x hx)

theorem passes_plainText (hv : PlainValue v) (behind : Text) :
    Passes inValue (' ' :: behind) (plainText v) inValue := by
  cases hv with
  | string hs =>
    exact (passes_openingMark behind).append (passes_escaped (escaped_body hs.legible) (by simp [escapedBehind])
      (by simp))
  | int => exact passes_bare (bare_ofInt _).all _
  | bool b => exact passes_bare (bare_plainText_bool b).all _

/-- The line of an entry is gone over. -/
theorem passes_entry (hkey : Bare t) (hv : PlainValue v) (behind : Text) :
    Passes {} behind (entryLine t v ++ ['\n']) {} := by
  obtain ⟨x, t, rfl⟩ := List.exists_cons_of_ne_nil hkey.ne_nil
  obtain ⟨hx, ht⟩ := List.forall_mem_cons.mp hkey.all
  have key : Passes {} behind (x :: t) inKey :=
    (passes_firstOfKey hx behind).cons (passes_all fun y hy => passes_inKey (ht y hy))
  have value := passes_plainText hv ([' ', '='].reverse ++ ((x :: t).reverse ++ behind))
  have whole : Passes {} behind (entryLine (x :: t) v) inValue :=
    (key.append (passes_equals _)).append (by simpa using value)
  exact whole.append (passes_single fun _ => rfl)

/-- The line of a header is gone over. -/
theorem passes_header (hname : Bare t) (behind : Text) :
    Passes {} behind (headerLine t ++ ['\n']) {} := by
  have opened : Passes {} behind ('[' :: t) inHeader := by
    obtain ⟨x, t, rfl⟩ := List.exists_cons_of_ne_nil hname.ne_nil
    have hopen : x ≠ '[' := ne_of_isBare (hname.all x List.mem_cons_self) (by decide)
    have hbracket : Cursor.pass {} behind '[' (some x) = .ok (inHeader, '[' :: behind) := by
      simp [Cursor.pass, isQuote, passBracket, passStart, isIndent, hopen, inHeader, bind, Except.bind, pure,
        Except.pure]
    have names : Passes inHeader ('[' :: behind) (x :: t) inHeader :=
      passes_all fun y hy => passes_inHeader (hname.all y hy)
    intro rest
    have hnames := names rest
    rw [List.cons_append, passAll]
    show (Cursor.pass {} behind '[' (some x) >>= fun r => passAll r.1 r.2 (x :: t ++ rest)) = _
    rw [hbracket, List.reverse_cons, List.append_assoc]
    exact hnames
  have whole : Passes {} behind (headerLine t) inValue := opened.append fun rest => rfl
  exact whole.append (passes_single fun _ => rfl)

end Kudos.Toml
