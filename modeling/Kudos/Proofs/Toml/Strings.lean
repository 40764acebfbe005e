import Mathlib
import Kudos.Toml.Printer
import Kudos.Toml.Value
import Kudos.Proofs.Text.Basic

/-!
# Strings of a configuration

A string of legible characters is written with escapes of one letter only, and what is written is read
again (`unquote_stringText`), unless the reader takes the string for one over several lines because it
starts with two marks. A backslash with an `x` behind it is written as something else, so strings with
these two are left out, too.

What stands between the marks is `Escaped`: every backslash takes the next character along. Each of the
passes of the reader over a string is followed from left to right with the text that was passed; all it
has to know of that text is whether a backslash is open at its end.
-/

namespace Kudos.Toml

open Text

variable {c k : Char} {s t w tail : Text} {b : Bool}

/-- Whether a character is written by itself or by an escape of one letter. -/
def Legible (c : Char) : Prop :=
  ¬ isInvisible c ∨ c = '\n' ∨ c = '\r' ∨ c = '\t'

/-- Whether a string is read as it was written. -/
structure PlainString (s : Text) : Prop where
  legible : ∀ c ∈ s, Legible c
  not_hex : ¬ ['\\', 'x'] <:+: s
  not_mark : s ≠ ['"']
  not_marks : ¬ ['"', '"'] <+: s

/-- What stands between the marks of a string. -/
def body (s : Text) : Text :=
  s.flatMap (quoteChar '"')

/-- Whether a text can be a part of what stands between double marks up to the closing one. The flag says
that the backslash before it takes its first character along. -/
inductive Escaped : Bool → Text → Prop where
  | nil : Escaped false []
  | self {c : Char} {t : Text} (hmark : c ≠ '"') (hslash : c ≠ '\\') (hbreak : c ≠ '\n' ∧ c ≠ '\r')
      (h : Escaped false t) : Escaped false (c :: t)
  | slash {t : Text} (h : Escaped true t) : Escaped false ('\\' :: t)
  | letter {k : Char} {t : Text} (hk : k ∈ ['\\', '"', 'n', 'r', 't']) (h : Escaped false t) :
      Escaped true (k :: t)

/-- Visible characters without marks and backslashes make a plain string. -/
theorem plainString_of_all (h : s.all fun c => !isInvisible c && c != '\\' && c != '"') : PlainString s := by
  have hall : ∀ c ∈ s, ¬ isInvisible c ∧ c ≠ '\\' ∧ c ≠ '"' := by simpa [and_assoc] using h
  have hmark : '"' ∉ s := fun hmem => (hall _ hmem).2.2 rfl
  exact {
    legible := fun c hc => .inl (hall c hc).1
    not_hex := fun hhex => (hall '\\' (hhex.subset (by simp))).2.1 rfl
    not_mark := fun heq => hmark (by simp [heq])
    not_marks := fun hmarks => hmark (hmarks.subset (by simp)) }

/-! ## What is written -/

theorem quoteChar_cases (hc : Legible c) :
    quoteChar '"' c = [c] ∧ c ≠ '"' ∧ c ≠ '\\' ∧ c ≠ '\n' ∧ c ≠ '\r' ∨
      ∃ k ∈ ['\\', '"', 'n', 'r', 't'], quoteChar '"' c = ['\\', k] ∧
        ((k = '\\' ∧ c = '\\') ∨ escaped? k = some c) := by
  unfold quoteChar
  by_cases hmark : c = '"'
  · subst hmark
    exact .inr ⟨'"', by simp, rfl, .inr rfl⟩
  by_cases hslash : c = '\\'
  · subst hslash
    exact .inr ⟨'\\', by simp, rfl, .inl ⟨rfl, rfl⟩⟩
  by_cases hnewline : c = '\n'
  · subst hnewline
    exact .inr ⟨'n', by simp, rfl, .inr rfl⟩
  by_cases hreturn : c = '\r'
  · subst hreturn
    exact .inr ⟨'r', by simp, rfl, .inr rfl⟩
  by_cases htab : c = '\t'
  · subst htab
    exact .inr ⟨'t', by simp, rfl, .inr rfl⟩
  · have hvisible : ¬ isInvisible c := by simpa [Legible, hnewline, hreturn, htab] using hc
    exact .inl ⟨by simp [hmark, hslash, hnewline, hreturn, htab, hvisible], hmark, hslash, hnewline, hreturn⟩

theorem body_cons (c : Char) (s : Text) : body (c :: s) = quoteChar '"' c ++ body s :=
  List.flatMap_cons

theorem escaped_body (hs : ∀ c ∈ s, Legible c) : Escaped false (body s) := by
  induction s with
  | nil => exact .nil
  | cons c s ih =>
    have rest := ih fun e he => hs e (List.mem_cons_of_mem _ he)
    rw [body_cons]
    rcases quoteChar_cases (hs c List.mem_cons_self) with ⟨heq, hmark, hslash, hbreak⟩ | ⟨k, hk, heq, -⟩
    · rw [heq]
      exact .self hmark hslash hbreak rest
    · rw [heq]
      exact .slash (.letter hk rest)

theorem ne_mark_of_body_eq (hs : ∀ c ∈ s, Legible c) (h : body s = c :: t) : c ≠ '"' := by
  rintro rfl
  have hescaped := escaped_body hs
  rw [h] at hescaped
  cases hescaped with
  | self hmark => exact hmark rfl

theorem ne_break_of_mem_escaped (h : Escaped b t) : ∀ c ∈ t, c ≠ '\n' ∧ c ≠ '\r' := by
  induction h with
  | nil => simp
  | self _ _ hbreak _ ih => exact List.forall_mem_cons.mpr ⟨hbreak, ih⟩
  | slash _ ih => exact List.forall_mem_cons.mpr ⟨by decide, ih⟩
  | letter hk _ ih =>
    refine List.forall_mem_cons.mpr ⟨?_, ih⟩
    revert hk
    simp only [List.mem_cons, List.not_mem_nil, or_false]
    rintro (rfl | rfl | rfl | rfl | rfl) <;> decide

theorem head?_of_head?_body (hs : ∀ c ∈ s, Legible c) (h : (body s).head? = some c) (hc : c ≠ '\\') :
    s.head? = some c := by
  cases s with
  | nil => exact h
  | cons e s =>
    rw [body_cons] at h
    rcases quoteChar_cases (hs e List.mem_cons_self) with ⟨heq, -⟩ | ⟨k, -, heq, -⟩
    · rw [heq] at h
      exact h
    · rw [heq] at h
      exact absurd (Option.some.inj h).symm hc

/-- A backslash with an `x` behind it comes only from such two characters. -/
theorem not_hex_body (hs : ∀ c ∈ s, Legible c) (hhex : ¬ ['\\', 'x'] <:+: s) :
    ¬ ['\\', 'x'] <:+: body s := by
  induction s with
  | nil => simp [body]
  | cons c s ih =>
    rw [List.infix_cons_iff, not_or] at hhex
    have rest := ih (fun e he => hs e (List.mem_cons_of_mem _ he)) hhex.2
    rw [body_cons]
    rcases quoteChar_cases (hs c List.mem_cons_self) with ⟨heq, -, hslash, -⟩ | ⟨k, hk, heq, hread⟩
    · rw [heq, List.singleton_append, List.infix_cons_iff, not_or]
      refine ⟨?_, rest⟩
      rw [List.cons_prefix_cons]
      exact fun hprefix => hslash hprefix.1.symm
    · rw [heq, List.cons_append, List.singleton_append, List.infix_cons_iff, List.infix_cons_iff, not_or,
        not_or]
      refine ⟨?_, ?_, rest⟩
      · rintro ⟨u, hu⟩
        have hx : 'x' = k := (List.cons.inj (List.cons.inj hu).2).1
        exact absurd (hx ▸ hk) (by decide)
      · rintro ⟨u, hsplit⟩
        obtain ⟨rfl, hu⟩ : '\\' = k ∧ 'x' :: u = body s := List.cons.inj hsplit
        obtain rfl : c = '\\' := by
          rcases hread with ⟨-, hc⟩ | hread
          · exact hc
          · cases hread
        have hhead := head?_of_head?_body (c := 'x') (fun e he => hs e (List.mem_cons_of_mem _ he))
          (by rw [← hu]; rfl) (by decide)
        obtain ⟨v, rfl⟩ := List.head?_eq_some_iff.mp hhead
        exact hhex.1 ⟨v, rfl⟩

/-! ## Cutting -/

theorem cut_of_not_infix {separator : Text} (limit : Nat)
    (h : ¬ separator <:+: t) : cut separator limit t = [t] := by
  induction t with
  | nil => simp [cut]
  | cons c t ih =>
    rw [List.infix_cons_iff, not_or] at h
    have hprefix : ¬ (limit ≠ 0 && separator.isPrefixOf (c :: t)) := by
      simp [h.1]
    rw [cut, if_neg hprefix, ih h.2]
    rfl

theorem stringBody_eq (hs : PlainString s) : stringBody s = .ok (body s) := by
  unfold stringBody
  have hcut := cut_of_not_infix (body s).length (not_hex_body hs.legible hs.not_hex)
  have hbody : s.flatMap (quoteChar '"') = body s := rfl
  dsimp only
  rw [hbody, hcut]
  cases body s <;> rfl

theorem stringText_eq (hs : PlainString s) : stringText s = .ok ('"' :: body s ++ ['"']) := by
  unfold stringText
  rw [stringBody_eq hs]
  rfl

/-! ## Open backslashes -/

theorem escapedBehind_cons (c : Char) (behind : Text) :
    escapedBehind (c :: behind) = (decide (c = '\\') && !escapedBehind behind) := by
  unfold escapedBehind
  by_cases hc : c = '\\'
  · rw [List.takeWhile_cons_of_pos (by simp [hc]), Bool.eq_iff_iff]
    simp only [List.length_cons, decide_eq_true_eq, hc, decide_true, Bool.true_and, Bool.not_eq_true',
      decide_eq_false_iff_not]
    omega
  · rw [List.takeWhile_cons_of_neg (by simp [hc])]
    simp [hc]

theorem endsEscaped_concat (t : Text) (c : Char) :
    endsEscaped (t ++ [c]) = (decide (c = '\\') && !endsEscaped t) := by
  unfold endsEscaped
  rw [List.reverse_append, List.reverse_singleton, List.singleton_append, escapedBehind_cons]

theorem endsEscaped_cons_of_ne (hc : c ≠ '\\') (t : Text) : endsEscaped (c :: t) = endsEscaped t := by
  induction t using List.reverseRecOn with
  | nil => simp [hc, endsEscaped, escapedBehind]
  | append_singleton t e ih => rw [← List.cons_append, endsEscaped_concat, endsEscaped_concat, ih]

/-! ## Passes of the reader -/

/-- Only the closing mark closes the string. -/
theorem endsOnce_splitOn (h : Escaped b t) (hb : endsEscaped w = b) (hw : '"' ∉ w) :
    endsOnce false false 0 (splitOn '"' (w ++ t ++ ['"'])) = true := by
  induction h generalizing w with
  | nil =>
    rw [List.append_nil, splitOn_append_cons hw, splitOn]
    cases w with
    | nil => rfl
    | cons c w => simp [endsOnce, hb]
  | @self c t hmark hslash _ _ ih =>
    have hnext := ih (w := w ++ [c]) (by rw [endsEscaped_concat]; simp [hslash])
      (by simp [hw, Ne.symm hmark])
    simpa using hnext
  | @slash t _ ih =>
    have hnext := ih (w := w ++ ['\\']) (by rw [endsEscaped_concat, hb]; rfl) (by simp [hw])
    simpa using hnext
  | @letter k t hk _ ih =>
    by_cases hmark : k = '"'
    · subst hmark
      have hne : w ≠ [] := by
        rintro rfl
        cases hb
      rw [List.append_assoc, List.cons_append, splitOn_append_cons hw, endsOnce, if_neg (by simpa using hne),
        if_pos hb]
      exact ih (w := []) rfl (by simp)
    · have hnext := ih (w := w ++ [k]) (by rw [endsEscaped_concat, hb]; simp) (by simp [hw, Ne.symm hmark])
      simpa using hnext

theorem isClosed_body (hs : ∀ c ∈ s, Legible c) : isClosed '"' ('"' :: body s ++ ['"']) = true := by
  have hends := endsOnce_splitOn (escaped_body hs) (w := []) rfl (by simp)
  unfold isClosed
  rw [List.cons_append, List.drop_one, List.tail_cons]
  rw [List.nil_append] at hends
  cases h : body s with
  | nil => rfl
  | cons c u =>
    have hc := ne_mark_of_body_eq hs h
    rw [h] at hends
    obtain ⟨piece, pieces, -, hsplit⟩ := splitOn_cons_of_ne hc (u ++ ['"'])
    rw [List.cons_append, hsplit] at hends ⊢
    exact hends

theorem escapesKnown_true (t : Text) :
    escapesKnown true (splitOn '\\' t) = escapesKnown false ((splitOn '\\' t).drop 1) := by
  cases t with
  | nil => rfl
  | cons c t =>
    by_cases hc : c = '\\'
    · subst hc
      simp [splitOn, escapesKnown]
    · obtain ⟨piece, pieces, -, hsplit⟩ := splitOn_cons_of_ne hc t
      rw [hsplit]
      simp [escapesKnown]

/-- Every escape is known. -/
theorem escapesKnown_splitOn (h : Escaped b t) (htail : '\\' ∉ tail) :
    escapesKnown false ((splitOn '\\' (t ++ tail)).drop (if b then 0 else 1)) = true := by
  induction h with
  | nil => simp [splitOn_of_not_mem htail, escapesKnown]
  | @self c t hmark hslash _ _ ih =>
    obtain ⟨piece, pieces, hpieces, hsplit⟩ := splitOn_cons_of_ne hslash (t ++ tail)
    rw [hpieces] at ih
    rw [List.cons_append, hsplit]
    exact ih
  | slash _ ih => simpa [splitOn] using ih
  | @letter k t hk _ ih =>
    by_cases hslash : k = '\\'
    · subst hslash
      rw [List.cons_append, splitOn, if_pos rfl, if_pos rfl, List.drop_zero, escapesKnown, Bool.not_false,
        escapesKnown_true]
      exact ih
    · obtain ⟨piece, pieces, hpieces, hsplit⟩ := splitOn_cons_of_ne hslash (t ++ tail)
      have hknown : (escaped? k).isSome := by
        revert hk
        simp only [List.mem_cons, List.not_mem_nil, or_false]
        rintro (rfl | rfl | rfl | rfl | rfl) <;> first | rfl | exact absurd rfl hslash
      rw [hpieces] at ih
      rw [List.cons_append, hsplit, if_pos rfl, List.drop_zero, escapesKnown, hknown]
      exact ih

/-- The pieces around the marks of numbered characters put together again behind a text. -/
def gluedBehind (width : Nat) (mark w : Text) : List Text → Except Flaw Text
  | [] => .ok w
  | piece :: rest => do return w ++ piece ++ (← readCodes width mark (endsEscaped (w ++ piece)) rest)

section

variable {m : Char} {width l : Nat} {mark : Text} {pieces : List Text}

theorem cut_ne_nil (separator : Text) (l : Nat) (t : Text) : cut separator l t ≠ [] := by
  cases t with
  | nil => simp [cut]
  | cons c t =>
    rw [cut]
    split
    · simp
    · cases cut separator l t <;> simp [prependTo]

theorem withCodes_eq_gluedBehind (width : Nat) (mark t : Text) :
    withCodes width mark t = gluedBehind width mark [] (cut mark t.length t) := by
  unfold withCodes
  split
  · next h => exact absurd h (cut_ne_nil mark t.length t)
  · next first rest h =>
    rw [h]
    rfl

theorem gluedBehind_prependTo (h : pieces ≠ []) (c : Char) :
    gluedBehind width mark w (prependTo c pieces) = gluedBehind width mark (w ++ [c]) pieces := by
  obtain ⟨piece, rest, rfl⟩ := List.exists_cons_of_ne_nil h
  simp [gluedBehind, prependTo]

theorem gluedBehind_cons_of_ne (h : pieces ≠ []) (hc : c ≠ '\\') :
    gluedBehind width mark [c] pieces = (gluedBehind width mark [] pieces).map (c :: ·) := by
  obtain ⟨piece, rest, rfl⟩ := List.exists_cons_of_ne_nil h
  simp only [gluedBehind, List.singleton_append, endsEscaped_cons_of_ne hc, List.nil_append]
  cases readCodes width mark (endsEscaped piece) rest <;> rfl

/-- A mark behind an open backslash is none. -/
theorem gluedBehind_nil_cons (h : pieces ≠ []) (hw : endsEscaped w) :
    gluedBehind width mark w ([] :: pieces) =
      (gluedBehind width mark [] pieces).map (w ++ mark ++ ·) := by
  obtain ⟨piece, rest, rfl⟩ := List.exists_cons_of_ne_nil h
  simp only [gluedBehind, List.append_nil, hw, readCodes, List.nil_append]
  cases readCodes width mark (endsEscaped piece) rest with
  | error flaw => rfl
  | ok t =>
    show Except.ok (w ++ (mark ++ piece ++ t)) = Except.ok (w ++ mark ++ (piece ++ t))
    simp

theorem cut_cons_of_not_starts {separator : Text} (h : ¬ separator <+: c :: t) :
    cut separator l (c :: t) = prependTo c (cut separator l t) := by
  rw [cut, if_neg]
  simp [h]

/-- A character that starts no mark goes over to what was passed. -/
theorem gluedBehind_cut_cons (h : ¬ mark <+: c :: t) :
    gluedBehind width mark w (cut mark l (c :: t)) =
      gluedBehind width mark (w ++ [c]) (cut mark l t) := by
  rw [cut_cons_of_not_starts h, gluedBehind_prependTo (cut_ne_nil _ _ _)]

theorem not_prefix_of_ne (hc : c ≠ '\\') (t : Text) : ¬ ['\\', m] <+: c :: t := by
  rw [List.cons_prefix_cons]
  exact fun h => hc h.1.symm

theorem cut_zero (separator t : Text) : cut separator 0 t = [t] := by
  induction t with
  | nil => simp [cut]
  | cons c t ih =>
    rw [cut, if_neg (by simp), ih]
    rfl

/-- The marks of numbered characters do not count, for the backslash of each is the second one of a
pair. -/
theorem gluedBehind_cut (h : Escaped b t) (hb : endsEscaped w = b)
    (hm : m ∉ ['\\', '"', 'n', 'r', 't']) :
    gluedBehind width ['\\', m] w (cut ['\\', m] l (t ++ ['"'])) = .ok (w ++ t ++ ['"']) := by
  induction h generalizing w l with
  | nil =>
    have hnone : ¬ ['\\', m] <:+: ['"'] := fun h => by
      simpa using h.subset List.mem_cons_self
    rw [List.nil_append, cut_of_not_infix l hnone]
    simp [gluedBehind, readCodes, pure, Except.pure, bind, Except.bind]
  | @self c t hmark hslash _ _ ih =>
    have hnext := ih (w := w ++ [c]) (l := l) (by rw [endsEscaped_concat]; simp [hslash])
    rw [List.cons_append, gluedBehind_cut_cons (not_prefix_of_ne hslash _), hnext]
    simp
  | @slash t h ih =>
    have hnext := ih (w := w ++ ['\\']) (l := l) (by rw [endsEscaped_concat, hb]; rfl)
    have hmark : ¬ ['\\', m] <+: '\\' :: (t ++ ['"']) := by
      cases h with
      | @letter k t hk _ =>
        have hne : m ≠ k := fun heq => hm (heq ▸ hk)
        simp [hne]
    rw [List.cons_append, gluedBehind_cut_cons hmark, hnext]
    simp
  | @letter k t hk _ ih =>
    have hnext := ih (w := w ++ [k]) (l := l) (by rw [endsEscaped_concat, hb]; simp)
    by_cases hmark : ['\\', m] <+: k :: (t ++ ['"'])
    · obtain ⟨v, hmark⟩ := hmark
      obtain ⟨rfl, hv⟩ : '\\' = k ∧ m :: v = t ++ ['"'] := List.cons.inj hmark
      have hne : m ≠ '\\' := fun heq => hm (heq ▸ List.mem_cons_self)
      rw [List.cons_append, List.append_assoc, List.cons_append, ← hv]
      cases l with
      | zero => simp [cut_zero, gluedBehind, readCodes, pure, Except.pure, bind, Except.bind]
      | succ l =>
        have hrest := ih (w := []) (l := l) rfl
        rw [List.nil_append, ← hv, gluedBehind_cut_cons (not_prefix_of_ne hne _), List.nil_append,
          gluedBehind_cons_of_ne (cut_ne_nil _ _ _) hne] at hrest
        have hsplit : cut ['\\', m] (l + 1) ('\\' :: m :: v) = [] :: cut ['\\', m] l v := by
          rw [cut, if_pos (by simp)]
          rfl
        rw [hsplit, gluedBehind_nil_cons (cut_ne_nil _ _ _) hb]
        cases hbehind : gluedBehind width ['\\', m] [] (cut ['\\', m] l v) with
        | error flaw =>
          rw [hbehind] at hrest
          cases hrest
        | ok u =>
          rw [hbehind] at hrest
          obtain rfl : u = v := (List.cons.inj (Except.ok.inj hrest)).2
          simp [Except.map]
    · rw [List.cons_append, gluedBehind_cut_cons hmark, hnext]
      simp

end

theorem withCodes_body (hs : ∀ c ∈ s, Legible c) {m : Char} (hm : m ∉ ['\\', '"', 'n', 'r', 't'])
    (width : Nat) :
    withCodes width ['\\', m] ('"' :: body s ++ ['"']) = .ok ('"' :: body s ++ ['"']) := by
  have hglued : gluedBehind width ['\\', m] ['"']
      (cut ['\\', m] ('"' :: body s ++ ['"']).length (body s ++ ['"'])) = .ok (['"'] ++ body s ++ ['"']) :=
    gluedBehind_cut (escaped_body hs) rfl hm
  rw [withCodes_eq_gluedBehind, List.cons_append, gluedBehind_cut_cons (not_prefix_of_ne (by decide) _)]
  exact hglued

theorem withLetters_body (hs : ∀ c ∈ s, Legible c) (tail : Text) :
    withLetters (body s ++ tail) = (withLetters tail).map (s ++ ·) := by
  induction s with
  | nil =>
    show withLetters tail = _
    cases withLetters tail <;> rfl
  | cons c s ih =>
    have hrest := ih fun e he => hs e (List.mem_cons_of_mem _ he)
    rw [body_cons]
    rcases quoteChar_cases (hs c List.mem_cons_self) with ⟨heq, -, hslash, -⟩ | ⟨k, -, heq, hread⟩
    · rw [heq, List.singleton_append, List.cons_append, withLetters, hrest]
      · cases withLetters tail <;> rfl
      · exact fun h _ => hslash h
      · exact fun _ _ h _ => hslash h
    · rw [heq, List.cons_append, List.cons_append, List.singleton_append, List.cons_append, withLetters]
      rcases hread with ⟨rfl, rfl⟩ | hread
      · have hnone : escaped? '\\' = none := rfl
        rw [hnone, hrest]
        cases withLetters tail <;> rfl
      · rw [hread, hrest]
        cases withLetters tail <;> rfl

theorem inner_one (c d : Char) (t : Text) : inner 1 (c :: t ++ [d]) = t := by
  simp [inner]

theorem withoutMarks_eq (hmark : s ≠ ['"']) (hmarks : ¬ ['"', '"'] <+: s) :
    withoutMarks '"' ('"' :: s ++ ['"']) = s := by
  cases s with
  | nil => rfl
  | cons c s =>
    have hopen : ¬ (c = '"' && ((s ++ ['"']).isEmpty || (s ++ ['"']).head? = some '"')) := by
      intro hopen
      obtain ⟨hc, hd⟩ := Bool.and_eq_true _ _ ▸ hopen
      obtain rfl : c = '"' := of_decide_eq_true hc
      cases s with
      | nil => exact hmark rfl
      | cons d s =>
        obtain rfl : d = '"' := by simpa using hd
        exact hmarks ⟨s, rfl⟩
    have hinner := inner_one '"' '"' (c :: s)
    rw [List.cons_append, List.cons_append] at hinner ⊢
    dsimp only [withoutMarks]
    rw [if_neg hopen, hinner]

theorem unquote_body (hs : PlainString s) : unquote '"' ('"' :: body s ++ ['"']) = .ok s := by
  have hknown := escapesKnown_splitOn (escaped_body hs.legible) (by decide : '\\' ∉ ['"'])
  have hletters := withLetters_body hs.legible ['"']
  have hopen : withLetters ('"' :: body s ++ ['"']) = .ok ('"' :: s ++ ['"']) := by
    rw [List.cons_append, withLetters, hletters]
    · rfl
    · simp
    · simp
  have hdrop : (splitOn '\\' ('"' :: body s ++ ['"'])).drop 1 = (splitOn '\\' (body s ++ ['"'])).drop 1 := by
    obtain ⟨piece, pieces, hpieces, hsplit⟩ :=
      splitOn_cons_of_ne (by decide : '"' ≠ '\\') (body s ++ ['"'])
    rw [List.cons_append, hsplit, hpieces]
    rfl
  have hread : readEscapes ('"' :: body s ++ ['"']) = .ok ('"' :: s ++ ['"']) := by
    unfold readEscapes
    rw [if_pos (by rw [hdrop]; exact hknown), withCodes_body hs.legible (by decide)]
    show (withCodes 8 ['\\', 'U'] _ >>= withLetters) = _
    rw [withCodes_body hs.legible (by decide)]
    exact hopen
  unfold unquote
  rw [isClosed_body hs.legible, hread]
  exact congrArg Except.ok (withoutMarks_eq hs.not_mark hs.not_marks)

/-- A string is read as it was written. -/
theorem read_stringText (hs : PlainString s) (room : Nat) (plain : Bool) :
    read room plain ('"' :: body s ++ ['"']) = .ok (string s) := by
  rw [List.cons_append]
  unfold read
  dsimp only
  have htrue : '"' :: (body s ++ ['"']) ≠ "true".toList := by simp
  have hfalse : '"' :: (body s ++ ['"']) ≠ "false".toList := by simp
  rw [if_neg htrue, if_neg hfalse, if_neg (by simp), if_pos (by decide), ← List.cons_append,
    unquote_body hs]
  rfl

end Kudos.Toml
