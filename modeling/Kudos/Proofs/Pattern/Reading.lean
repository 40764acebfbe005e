import Mathlib
import Kudos.Pattern

/-!
# What patterns read

The meaning of a pattern without its search. `Reads a pre run rest gs` says that the pattern, standing
behind `pre`, can cover `run` when `rest` follows, and that its groups then keep `gs`. Backtracking
finds a reading that the continuation accepts whenever there is one (`tryWith_isSome_of_reads`), and
whatever it finds is a reading (`exists_reads_of_tryWith`).

Which reading comes first is said by `ReadsFirst`, with one rule for each way to build a pattern; a
repetition reads first the longest run behind which the rest of the pattern can be read.
-/

namespace Kudos.Pattern

open Text (isWord)

variable {α : Type} {a b : Pattern} {p : Char → Bool} {pre run run' rest t : Text}
  {gs hs : List Text}

/-- The place behind one text and before another. -/
def Cursor.behind (pre rest : Text) (groups : List Text) : Cursor :=
  ⟨pre.getLast?, rest, groups⟩

@[simp] theorem Cursor.groups_behind : (Cursor.behind pre rest gs).groups = gs := rfl

/-- Whether exactly one of the characters at the border of two texts is a word character. -/
def EdgeBetween (pre rest : Text) : Prop :=
  (pre.getLast?.any isWord) ≠ (rest.head?.any isWord)

/-- Whether what follows a text starts a line. -/
def StartsLine (pre : Text) : Prop :=
  pre = [] ∨ pre.getLast? = some '\n'

/-- Before a place that starts a line every stretch that reaches it ends with a newline. -/
theorem StartsLine.newline_mem (h : StartsLine (pre ++ run)) (hne : run ≠ []) : '\n' ∈ run := by
  rcases h with h | h
  · simp [hne] at h
  · rw [List.getLast?_append_of_ne_nil _ hne] at h
    exact List.mem_of_getLast? h

/-- The pattern, standing behind `pre`, can cover `run` before `rest`, keeping `gs`. -/
inductive Reads : Pattern → Text → Text → Text → List Text → Prop where
  /-- One character of the class. -/
  | one {p : Char → Bool} {c : Char} {pre rest : Text} (h : p c) : Reads (one p) pre [c] rest []
  /-- The characters themselves. -/
  | literal {t pre rest : Text} : Reads (literal t) pre t rest []
  /-- Any run of the class. -/
  | many {p : Char → Bool} {pre run rest : Text} (h : ∀ c ∈ run, p c) :
      Reads (many p) pre run rest []
  /-- Any run of the class. -/
  | few {p : Char → Bool} {pre run rest : Text} (h : ∀ c ∈ run, p c) :
      Reads (few p) pre run rest []
  /-- One run behind the other. -/
  | andThen {a b : Pattern} {pre run run' rest : Text} {gs hs : List Text}
      (ha : Reads a pre run (run' ++ rest) gs) (hb : Reads b (pre ++ run) run' rest hs) :
      Reads (andThen a b) pre (run ++ run') rest (gs ++ hs)
  /-- What the left side can cover. -/
  | left {a b : Pattern} {pre run rest : Text} {gs : List Text} (h : Reads a pre run rest gs) :
      Reads (orElse a b) pre run rest gs
  /-- What the right side can cover. -/
  | right {a b : Pattern} {pre run rest : Text} {gs : List Text} (h : Reads b pre run rest gs) :
      Reads (orElse a b) pre run rest gs
  /-- The same run, which is kept. -/
  | group {a : Pattern} {pre run rest : Text} {gs : List Text} (h : Reads a pre run rest gs) :
      Reads (group a) pre run rest (gs ++ [run])
  /-- Nothing, at the start of a line. -/
  | lineStart {pre rest : Text} (h : StartsLine pre) : Reads lineStart pre [] rest []
  /-- Nothing, at the edge of a word. -/
  | wordEdge {pre rest : Text} (h : EdgeBetween pre rest) : Reads wordEdge pre [] rest []

/-- Whether the pattern can be read at the start of `t`, standing behind `pre`. -/
def Starts (a : Pattern) (pre t : Text) : Prop :=
  ∃ run rest gs, t = run ++ rest ∧ a.Reads pre run rest gs

/-! ## Readings of compound patterns -/

theorem reads_one : (one p).Reads pre run rest gs ↔ ∃ c, p c ∧ run = [c] ∧ gs = [] := by
  constructor
  · rintro ⟨h⟩
    exact ⟨_, h, rfl, rfl⟩
  · rintro ⟨c, h, rfl, rfl⟩
    exact .one h

theorem reads_literal : (literal t).Reads pre run rest gs ↔ run = t ∧ gs = [] := by
  constructor
  · rintro ⟨⟩
    exact ⟨rfl, rfl⟩
  · rintro ⟨rfl, rfl⟩
    exact .literal

theorem reads_many : (many p).Reads pre run rest gs ↔ (∀ c ∈ run, p c) ∧ gs = [] := by
  constructor
  · rintro ⟨⟩
    exact ⟨‹_›, rfl⟩
  · rintro ⟨h, rfl⟩
    exact .many h

theorem reads_few : (few p).Reads pre run rest gs ↔ (∀ c ∈ run, p c) ∧ gs = [] := by
  constructor
  · rintro ⟨⟩
    exact ⟨‹_›, rfl⟩
  · rintro ⟨h, rfl⟩
    exact .few h

theorem reads_append : (a ++ b).Reads pre run rest gs ↔
    ∃ r s g h, run = r ++ s ∧ gs = g ++ h ∧ a.Reads pre r (s ++ rest) g ∧
      b.Reads (pre ++ r) s rest h := by
  constructor
  · rintro ⟨⟩
    exact ⟨_, _, _, _, rfl, rfl, ‹_›, ‹_›⟩
  · rintro ⟨r, s, g, h, rfl, rfl, ha, hb⟩
    exact .andThen ha hb

theorem reads_orElse : (orElse a b).Reads pre run rest gs ↔
    a.Reads pre run rest gs ∨ b.Reads pre run rest gs := by
  constructor
  · rintro (_ | _)
    · exact .inl ‹_›
    · exact .inr ‹_›
  · rintro (h | h)
    · exact .left h
    · exact .right h

/-- A sequence can be read where its first part can be read before its second. -/
theorem starts_append : (a ++ b).Starts pre t ↔
    ∃ run rest gs, t = run ++ rest ∧ a.Reads pre run rest gs ∧ b.Starts (pre ++ run) rest := by
  constructor
  · rintro ⟨_, rest, _, rfl, h⟩
    obtain ⟨r, s, g, _, rfl, -, ha, hb⟩ := reads_append.mp h
    exact ⟨r, s ++ rest, g, by simp, ha, s, rest, _, rfl, hb⟩
  · rintro ⟨run, _, gs, rfl, ha, s, rest, hs, rfl, hb⟩
    exact ⟨run ++ s, rest, gs ++ hs, by simp, .andThen ha hb⟩

theorem starts_left (h : (a ++ b).Starts pre t) : a.Starts pre t := by
  obtain ⟨run, rest, gs, rfl, ha, -⟩ := starts_append.mp h
  exact ⟨run, rest, gs, rfl, ha⟩

theorem reads_group : (group a).Reads pre run rest gs ↔
    ∃ g, gs = g ++ [run] ∧ a.Reads pre run rest g := by
  constructor
  · rintro ⟨⟩
    exact ⟨_, rfl, ‹_›⟩
  · rintro ⟨g, rfl, h⟩
    exact .group h

theorem reads_lineStart : lineStart.Reads pre run rest gs ↔ run = [] ∧ gs = [] ∧ StartsLine pre := by
  constructor
  · rintro ⟨⟩
    exact ⟨rfl, rfl, ‹_›⟩
  · rintro ⟨rfl, rfl, h⟩
    exact .lineStart h

theorem reads_wordEdge :
    wordEdge.Reads pre run rest gs ↔ run = [] ∧ gs = [] ∧ EdgeBetween pre rest := by
  constructor
  · rintro ⟨⟩
    exact ⟨rfl, rfl, ‹_›⟩
  · rintro ⟨rfl, rfl, h⟩
    exact .wordEdge h

theorem reads_many1 :
    (many1 p).Reads pre run rest gs ↔ run ≠ [] ∧ (∀ c ∈ run, p c) ∧ gs = [] := by
  rw [many1, reads_append]
  constructor
  · rintro ⟨_, s, _, _, rfl, rfl, h, h'⟩
    obtain ⟨c, hc, rfl, rfl⟩ := reads_one.mp h
    obtain ⟨hs, rfl⟩ := reads_many.mp h'
    refine ⟨by simp, ?_, rfl⟩
    rintro d hd
    rcases List.mem_append.mp hd with hd | hd
    · rwa [List.mem_singleton.mp hd]
    · exact hs d hd
  · rintro ⟨hne, h, rfl⟩
    obtain ⟨c, s, rfl⟩ := List.exists_cons_of_ne_nil hne
    exact ⟨[c], s, [], [], rfl, rfl, .one (h c (by simp)),
      .many fun d hd => h d (List.mem_cons_of_mem _ hd)⟩

theorem reads_optional : (optional a).Reads pre run rest gs ↔
    a.Reads pre run rest gs ∨ run = [] ∧ gs = [] := by
  rw [optional, reads_orElse, reads_literal]

theorem reads_char {c : Char} : (char c).Reads pre run rest gs ↔ run = [c] ∧ gs = [] := by
  simp only [char, reads_one, beq_iff_eq, exists_eq_left]

theorem reads_word {s : String} : (word s).Reads pre run rest gs ↔ run = s.toList ∧ gs = [] :=
  reads_literal

/-! ## Classes of characters that patterns read -/

/-- Whether a pattern reads characters of a class only. -/
def ReadsOnly (q : Char → Prop) : Pattern → Prop
  | .one p => ∀ c, p c → q c
  | .literal t => ∀ c ∈ t, q c
  | .many p => ∀ c, p c → q c
  | .few p => ∀ c, p c → q c
  | .andThen a b => a.ReadsOnly q ∧ b.ReadsOnly q
  | .orElse a b => a.ReadsOnly q ∧ b.ReadsOnly q
  | .group a => a.ReadsOnly q
  | .lineStart => True
  | .wordEdge => True

theorem readsOnly_optional {q : Char → Prop} (h : a.ReadsOnly q) : (optional a).ReadsOnly q :=
  ⟨h, fun _ hc => absurd hc List.not_mem_nil⟩

theorem ReadsOnly.mono {q q' : Char → Prop} (ha : a.ReadsOnly q) (h : ∀ c, q c → q' c) :
    a.ReadsOnly q' := by
  induction a with
  | one p | literal t | many p | few p => exact fun c hc => h c (ha c hc)
  | andThen a b iha ihb | orElse a b iha ihb => exact ⟨iha ha.1, ihb ha.2⟩
  | group a ih => exact ih ha
  | lineStart | wordEdge => trivial

theorem readsOnly_of_forall {q : Char → Prop} (a : Pattern) (h : ∀ c, q c) : a.ReadsOnly q := by
  induction a with
  | one | literal | many | few => exact fun c _ => h c
  | andThen _ _ iha ihb | orElse _ _ iha ihb => exact ⟨iha, ihb⟩
  | group _ ih => exact ih
  | lineStart | wordEdge => trivial

/-- What such a pattern covers is a run of the class. -/
theorem Reads.forall_mem {q : Char → Prop} (h : a.Reads pre run rest gs) (ha : a.ReadsOnly q) :
    ∀ c ∈ run, q c := by
  induction h with
  | one hc => simpa using ha _ hc
  | literal => exact ha
  | many hrun => exact fun c hc => ha c (hrun c hc)
  | few hrun => exact fun c hc => ha c (hrun c hc)
  | andThen _ _ iha ihb =>
    intro c hc
    rcases List.mem_append.mp hc with hc | hc
    · exact iha ha.1 c hc
    · exact ihb ha.2 c hc
  | left _ ih => exact ih ha.1
  | right _ ih => exact ih ha.2
  | group _ ih => exact ih ha
  | lineStart => simp
  | wordEdge => simp

/-- The number of groups of a pattern. -/
def groupCount : Pattern → Nat
  | .andThen a b => a.groupCount + b.groupCount
  | .orElse a _ => a.groupCount
  | .group a => a.groupCount + 1
  | _ => 0

/-- Whether both sides of every choice have the same number of groups. -/
def isBalanced : Pattern → Bool
  | .andThen a b => a.isBalanced && b.isBalanced
  | .orElse a b => a.isBalanced && b.isBalanced && a.groupCount == b.groupCount
  | .group a => a.isBalanced
  | _ => true

/-- Every reading of such a pattern keeps all of its groups. -/
theorem Reads.length_groups (h : a.Reads pre run rest gs) (ha : a.isBalanced) :
    gs.length = a.groupCount := by
  induction h with
  | andThen _ _ iha ihb =>
    obtain ⟨ha, hb⟩ := Bool.and_eq_true _ _ |>.mp ha
    rw [List.length_append, iha ha, ihb hb, groupCount]
  | left _ ih =>
    simp only [isBalanced, Bool.and_eq_true] at ha
    exact ih ha.1.1
  | right _ ih =>
    simp only [isBalanced, Bool.and_eq_true, beq_iff_eq] at ha
    rw [ih ha.1.2, groupCount, ha.2]
  | group _ ih => rw [List.length_append, ih ha, groupCount, List.length_singleton]
  | _ => rfl

/-- Whether a pattern is read without regard to what stands around it. -/
def EdgeFree : Pattern → Prop
  | .andThen a b => a.EdgeFree ∧ b.EdgeFree
  | .orElse a b => a.EdgeFree ∧ b.EdgeFree
  | .group a => a.EdgeFree
  | .lineStart => False
  | .wordEdge => False
  | _ => True

/-- Such a pattern covers the same run anywhere. -/
theorem Reads.of_edgeFree {pre' rest' : Text} (h : a.Reads pre run rest gs) (ha : a.EdgeFree) :
    a.Reads pre' run rest' gs := by
  induction h generalizing pre' rest' with
  | one hc => exact .one hc
  | literal => exact .literal
  | many hrun => exact .many hrun
  | few hrun => exact .few hrun
  | andThen _ _ iha ihb => exact .andThen (iha ha.1) (ihb ha.2)
  | left _ ih => exact .left (ih ha.1)
  | right _ ih => exact .right (ih ha.2)
  | group _ ih => exact .group (ih ha)
  | lineStart => exact ha.elim
  | wordEdge => exact ha.elim

theorem Starts.of_edgeFree {pre' : Text} (h : a.Starts pre t) (ha : a.EdgeFree) :
    a.Starts pre' (t ++ rest) := by
  obtain ⟨run, u, gs, rfl, hreads⟩ := h
  exact ⟨run, u ++ rest, gs, by simp, hreads.of_edgeFree ha⟩

/-! ## What the search finds -/

section Steps

variable {c : Cursor} {before : Option Char} {k : Cursor → Option α}

theorem tryWith_one_nil : (one p).tryWith ⟨before, [], gs⟩ k = none := rfl

theorem tryWith_one_cons {e : Char} :
    (one p).tryWith ⟨before, e :: t, gs⟩ k = if p e then k ⟨some e, t, gs⟩ else none := rfl

theorem tryWith_literal : (literal t).tryWith c k = (c.skip? t).bind k := rfl

theorem tryWith_orElse : (orElse a b).tryWith c k = (a.tryWith c k).or (b.tryWith c k) := by
  rw [tryWith]
  cases a.tryWith c k <;> rfl

theorem tryWith_lineStart : lineStart.tryWith c k = if c.atLineStart then k c else none := rfl

theorem tryWith_wordEdge : wordEdge.tryWith c k = if c.atWordEdge then k c else none := rfl

end Steps

/-- A literal is skipped exactly when it comes next. -/
theorem skip?_eq_some {c : Cursor} :
    Cursor.skip? (.behind pre t gs) run = some c ↔
      ∃ rest, t = run ++ rest ∧ c = .behind (pre ++ run) rest gs := by
  induction run generalizing pre t with
  | nil => simp [Cursor.skip?, eq_comm]
  | cons x run ih =>
    cases t with
    | nil => simp [Cursor.skip?, Cursor.behind]
    | cons y t =>
      have moved : (⟨some y, t, gs⟩ : Cursor) = .behind (pre ++ [y]) t gs := by
        simp [Cursor.behind]
      by_cases hxy : x = y
      · subst hxy
        simp only [Cursor.skip?, Cursor.behind, ↓reduceIte]
        rw [moved, ih]
        simp [Cursor.behind]
      · simp [Cursor.skip?, Cursor.behind, hxy, Ne.symm hxy]

theorem atLineStart_behind : (Cursor.behind pre t gs).atLineStart = true ↔ StartsLine pre := by
  rw [Cursor.atLineStart, Bool.or_eq_true, decide_eq_true_iff, decide_eq_true_iff]
  simp [Cursor.behind, StartsLine]

theorem atWordEdge_behind : (Cursor.behind pre t gs).atWordEdge = true ↔ EdgeBetween pre t := by
  simp [Cursor.atWordEdge, Cursor.behind, EdgeBetween]

theorem upTo_behind :
    (Cursor.behind pre (run ++ rest) gs).upTo (.behind (pre ++ run) rest hs) = run := by
  simp [Cursor.upTo, Cursor.behind]

/-- No run of a class is accepted exactly when the continuation refuses each. -/
theorem runLongest_eq_none {k : Cursor → Option α} :
    runLongest p gs k pre.getLast? t = none ↔
      ∀ run rest, t = run ++ rest → (∀ c ∈ run, p c) → k (.behind (pre ++ run) rest gs) = none := by
  induction t generalizing pre with
  | nil => simp [runLongest, Cursor.behind]
  | cons c t ih =>
    have moved : (pre ++ [c]).getLast? = some c := by simp
    by_cases hc : p c
    · rw [runLongest, if_pos hc, Option.or_eq_none_iff, ← moved, ih]
      constructor
      · rintro ⟨longer, here⟩ run rest hsplit hrun
        rcases List.cons_eq_append_iff.mp hsplit with ⟨rfl, rfl⟩ | ⟨run, rfl, hrest⟩
        · simpa [Cursor.behind] using here
        · simpa using longer run rest hrest fun d hd => hrun d (List.mem_cons_of_mem _ hd)
      · intro h
        refine ⟨fun run rest hsplit hrun => ?_, ?_⟩
        · simpa using h (c :: run) rest (by simp [hsplit]) (by simpa [hc] using hrun)
        · simpa [Cursor.behind] using h [] (c :: t) rfl (by simp)
    · rw [runLongest, if_neg hc]
      constructor
      · rintro here run rest hsplit hrun
        rcases List.cons_eq_append_iff.mp hsplit with ⟨rfl, rfl⟩ | ⟨run, rfl, -⟩
        · simpa [Cursor.behind] using here
        · exact absurd (hrun c (by simp)) hc
      · intro h
        simpa [Cursor.behind] using h [] (c :: t) rfl (by simp)

/-- What is accepted is the longest run behind which the continuation accepts. -/
theorem runLongest_eq_some {k : Cursor → Option α} {r : α} :
    runLongest p gs k pre.getLast? t = some r ↔
      ∃ run rest, t = run ++ rest ∧ (∀ c ∈ run, p c) ∧ k (.behind (pre ++ run) rest gs) = some r ∧
        ∀ x y, rest = x ++ y → x ≠ [] → (∀ c ∈ x, p c) →
          k (.behind (pre ++ run ++ x) y gs) = none := by
  induction t generalizing pre with
  | nil => simp [runLongest, Cursor.behind]
  | cons c t ih =>
    have moved : (pre ++ [c]).getLast? = some c := by simp
    by_cases hc : p c
    · rw [runLongest, if_pos hc, ← moved, Option.or_eq_some_iff, ih, runLongest_eq_none]
      constructor
      · rintro (⟨run, rest, rfl, hrun, hk, hmax⟩ | ⟨longer, here⟩)
        · refine ⟨c :: run, rest, rfl, by simpa [hc] using hrun, by simpa using hk, ?_⟩
          simpa using hmax
        · refine ⟨[], c :: t, rfl, by simp, by simpa [Cursor.behind] using here, ?_⟩
          intro x y hsplit hx hxp
          rcases List.cons_eq_append_iff.mp hsplit with ⟨rfl, -⟩ | ⟨x, rfl, hy⟩
          · exact absurd rfl hx
          · simpa using longer x y hy fun d hd => hxp d (List.mem_cons_of_mem _ hd)
      · rintro ⟨run, rest, hsplit, hrun, hk, hmax⟩
        rcases List.cons_eq_append_iff.mp hsplit with ⟨rfl, rfl⟩ | ⟨run, rfl, hrest⟩
        · refine .inr ⟨fun run rest hsplit hrun => ?_, by simpa [Cursor.behind] using hk⟩
          simpa using hmax (c :: run) rest (by simp [hsplit]) (by simp) (by simpa [hc] using hrun)
        · refine .inl ⟨run, rest, hrest, fun d hd => hrun d (List.mem_cons_of_mem _ hd),
            by simpa using hk, ?_⟩
          simpa using hmax
    · rw [runLongest, if_neg hc]
      constructor
      · intro here
        refine ⟨[], c :: t, rfl, by simp, by simpa [Cursor.behind] using here, ?_⟩
        intro x y hsplit hx hxp
        rcases List.cons_eq_append_iff.mp hsplit with ⟨rfl, -⟩ | ⟨x, rfl, -⟩
        · exact absurd rfl hx
        · exact absurd (hxp c (by simp)) hc
      · rintro ⟨run, rest, hsplit, hrun, hk, -⟩
        rcases List.cons_eq_append_iff.mp hsplit with ⟨rfl, rfl⟩ | ⟨run, rfl, -⟩
        · simpa [Cursor.behind] using hk
        · exact absurd (hrun c (by simp)) hc

theorem exists_of_runShortest {k : Cursor → Option α} {r : α}
    (h : runShortest p gs k pre.getLast? t = some r) :
    ∃ run rest, t = run ++ rest ∧ (∀ c ∈ run, p c) ∧ k (.behind (pre ++ run) rest gs) = some r := by
  induction t generalizing pre with
  | nil => exact ⟨[], [], rfl, by simp, by simpa [runShortest, Cursor.behind] using h⟩
  | cons c t ih =>
    have moved : (pre ++ [c]).getLast? = some c := by simp
    rw [runShortest] at h
    split at h
    case h_1 r' hk =>
      exact ⟨[], c :: t, rfl, by simp, by simpa [Cursor.behind] using hk.trans h⟩
    case h_2 =>
      split at h
      case isTrue hc =>
        rw [← moved] at h
        obtain ⟨run, rest, rfl, hrun, hk⟩ := ih h
        exact ⟨c :: run, rest, rfl, by simpa [hc] using hrun, by simpa using hk⟩
      case isFalse => simp at h

/-- The shortest accepted run of the class is what is accepted. -/
theorem runShortest_eq_some {k : Cursor → Option α} {r : α} (hrun : ∀ c ∈ run, p c)
    (hk : k (.behind (pre ++ run) rest gs) = some r)
    (hmin : ∀ x y, run = x ++ y → y ≠ [] → k (.behind (pre ++ x) (y ++ rest) gs) = none) :
    runShortest p gs k pre.getLast? (run ++ rest) = some r := by
  induction run generalizing pre with
  | nil =>
    rw [List.append_nil] at hk
    cases rest with
    | nil => simpa [runShortest, Cursor.behind] using hk
    | cons c rest =>
      have here : k ⟨pre.getLast?, c :: rest, gs⟩ = some r := hk
      simp [runShortest, here]
  | cons c run ih =>
    have moved : (pre ++ [c]).getLast? = some c := by simp
    have refused : k ⟨pre.getLast?, c :: (run ++ rest), gs⟩ = none := by
      simpa [Cursor.behind] using hmin [] (c :: run) rfl (by simp)
    rw [List.cons_append, runShortest, refused]
    simp only
    rw [if_pos (hrun c (by simp)), ← moved]
    refine ih (fun d hd => hrun d (by simp [hd])) (by simpa using hk) ?_
    intro x y hxy hy
    simpa using hmin (c :: x) y (by simp [hxy]) hy

/-- A run of the class that the continuation accepts leads to success. -/
theorem runShortest_isSome {k : Cursor → Option α} (hrun : ∀ c ∈ run, p c)
    (hk : (k (.behind (pre ++ run) rest gs)).isSome) :
    (runShortest p gs k pre.getLast? (run ++ rest)).isSome := by
  induction run generalizing pre with
  | nil =>
    rw [List.append_nil] at hk
    cases rest with
    | nil => simpa [runShortest, Cursor.behind] using hk
    | cons c rest =>
      obtain ⟨r, hr⟩ := Option.isSome_iff_exists.mp hk
      have here : k ⟨pre.getLast?, c :: rest, gs⟩ = some r := hr
      simp [runShortest, here]
  | cons c run ih =>
    have moved : (pre ++ [c]).getLast? = some c := by simp
    rw [List.cons_append, runShortest]
    split
    · rfl
    · rw [if_pos (hrun c (by simp)), ← moved]
      exact ih (fun d hd => hrun d (List.mem_cons_of_mem _ hd)) (by simpa using hk)

/-- Whatever the search finds is a reading that the continuation accepts. -/
theorem exists_reads_of_tryWith {k : Cursor → Option α} {r : α}
    (h : a.tryWith (.behind pre t gs) k = some r) :
    ∃ run rest hs, t = run ++ rest ∧ a.Reads pre run rest hs ∧
      k (.behind (pre ++ run) rest (gs ++ hs)) = some r := by
  induction a generalizing pre t gs k with
  | one p =>
    cases t with
    | nil => simp [tryWith_one_nil, Cursor.behind] at h
    | cons c t =>
      by_cases hc : p c
      · refine ⟨[c], t, [], rfl, .one hc, ?_⟩
        simpa [tryWith_one_cons, Cursor.behind, hc] using h
      · simp [tryWith_one_cons, Cursor.behind, hc] at h
  | literal x =>
    obtain ⟨d, hd, hk⟩ := Option.bind_eq_some_iff.mp h
    obtain ⟨rest, rfl, rfl⟩ := skip?_eq_some.mp hd
    exact ⟨x, rest, [], rfl, .literal, by simpa using hk⟩
  | many p =>
    obtain ⟨run, rest, rfl, hrun, hk, -⟩ := runLongest_eq_some.mp h
    exact ⟨run, rest, [], rfl, .many hrun, by simpa using hk⟩
  | few p =>
    obtain ⟨run, rest, rfl, hrun, hk⟩ := exists_of_runShortest h
    exact ⟨run, rest, [], rfl, .few hrun, by simpa using hk⟩
  | andThen a b iha ihb =>
    obtain ⟨run, mid, hs, rfl, ha, hmid⟩ := iha h
    obtain ⟨run', rest, hs', rfl, hb, hk⟩ := ihb hmid
    exact ⟨run ++ run', rest, hs ++ hs', by simp, .andThen ha hb, by simpa using hk⟩
  | orElse a b iha ihb =>
    rw [tryWith_orElse, Option.or_eq_some_iff] at h
    rcases h with h | ⟨-, h⟩
    · obtain ⟨run, rest, hs, rfl, hr, hk⟩ := iha h
      exact ⟨run, rest, hs, rfl, .left hr, hk⟩
    · obtain ⟨run, rest, hs, rfl, hr, hk⟩ := ihb h
      exact ⟨run, rest, hs, rfl, .right hr, hk⟩
  | group a iha =>
    obtain ⟨run, rest, hs, rfl, hr, hk⟩ := iha h
    rw [upTo_behind] at hk
    exact ⟨run, rest, hs ++ [run], rfl, .group hr, by simpa [Cursor.behind] using hk⟩
  | lineStart =>
    rw [tryWith_lineStart] at h
    split at h
    case isTrue hl =>
      exact ⟨[], t, [], rfl, .lineStart (atLineStart_behind.mp hl), by simpa using h⟩
    case isFalse => simp at h
  | wordEdge =>
    rw [tryWith_wordEdge] at h
    split at h
    case isTrue hw =>
      exact ⟨[], t, [], rfl, .wordEdge (atWordEdge_behind.mp hw), by simpa using h⟩
    case isFalse => simp at h

theorem tryWith_isSome_of_reads {k : Cursor → Option α} (h : a.Reads pre run rest hs)
    (hk : (k (.behind (pre ++ run) rest (gs ++ hs))).isSome) :
    (a.tryWith (.behind pre (run ++ rest) gs) k).isSome := by
  induction h generalizing gs k with
  | one hc => simpa [tryWith_one_cons, Cursor.behind, hc] using hk
  | @literal t pre rest =>
    have skipped : Cursor.skip? (.behind pre (t ++ rest) gs) t = some (.behind (pre ++ t) rest gs) :=
      skip?_eq_some.mpr ⟨rest, rfl, rfl⟩
    simpa [tryWith_literal, skipped] using hk
  | @many p pre run rest hrun =>
    rw [Option.isSome_iff_ne_none]
    intro hnone
    have refused := runLongest_eq_none.mp hnone run rest rfl hrun
    simp_all
  | few hrun => exact runShortest_isSome hrun (by simpa using hk)
  | andThen _ _ iha ihb =>
    rw [List.append_assoc]
    exact iha (ihb (by simpa using hk))
  | left _ ih =>
    rw [tryWith_orElse, Option.isSome_or, ih hk, Bool.true_or]
  | right _ ih =>
    rw [tryWith_orElse, Option.isSome_or, ih hk, Bool.or_true]
  | group _ ih =>
    refine ih ?_
    rw [upTo_behind]
    simpa [Cursor.behind] using hk
  | lineStart h => simpa [tryWith_lineStart, atLineStart_behind.mpr h] using hk
  | wordEdge h => simpa [tryWith_wordEdge, atWordEdge_behind.mpr h] using hk

/-- A pattern that cannot be read is not found, whatever is to follow. -/
theorem tryWith_eq_none {k : Cursor → Option α} (h : ¬ a.Starts pre t) :
    a.tryWith (.behind pre t gs) k = none := by
  rw [Option.eq_none_iff_forall_ne_some]
  intro r hr
  obtain ⟨run, rest, hs, rfl, hreads, -⟩ := exists_reads_of_tryWith hr
  exact h ⟨run, rest, hs, rfl, hreads⟩

/-! ## The reading that comes first -/

/-- The pattern, standing behind `pre`, offers `run` before any other run, keeping `hs`. -/
def ReadsFirst (a : Pattern) (pre run rest : Text) (hs : List Text) : Prop :=
  ∀ (gs : List Text) (k : Cursor → Option Cursor) (r : Cursor),
    k (.behind (pre ++ run) rest (gs ++ hs)) = some r →
      a.tryWith (.behind pre (run ++ rest) gs) k = some r

namespace ReadsFirst

theorem one {c : Char} (h : p c) : (one p).ReadsFirst pre [c] rest [] := by
  intro gs k r hk
  simpa [tryWith_one_cons, Cursor.behind, h] using hk

theorem literal : (literal t).ReadsFirst pre t rest [] := by
  intro gs k r hk
  have skipped : Cursor.skip? (.behind pre (t ++ rest) gs) t = some (.behind (pre ++ t) rest gs) :=
    skip?_eq_some.mpr ⟨rest, rfl, rfl⟩
  simpa [tryWith_literal, skipped] using hk

theorem char {c : Char} : (char c).ReadsFirst pre [c] rest [] :=
  one (by simp)

theorem andThen (ha : a.ReadsFirst pre run (run' ++ rest) gs)
    (hb : b.ReadsFirst (pre ++ run) run' rest hs) :
    (a ++ b).ReadsFirst pre (run ++ run') rest (gs ++ hs) := by
  intro fs k r hk
  rw [List.append_assoc]
  refine ha fs _ r (hb (fs ++ gs) k r ?_)
  simpa using hk

/-- How a sequence is bracketed does not matter. -/
theorem assoc {c : Pattern} :
    (a ++ b ++ c).ReadsFirst pre run rest gs ↔ (a ++ (b ++ c)).ReadsFirst pre run rest gs :=
  Iff.rfl

/-- A run of a class is offered before the shorter ones, so it is first when no longer one lets the
rest of the pattern be read. -/
theorem many_append (hrun : ∀ c ∈ run, p c) (hb : b.ReadsFirst (pre ++ run) run' rest hs)
    (hmax : ∀ x y, run' ++ rest = x ++ y → x ≠ [] → (∀ c ∈ x, p c) →
      ¬ b.Starts (pre ++ run ++ x) y) :
    (many p ++ b).ReadsFirst pre (run ++ run') rest hs := by
  intro gs k r hk
  refine runLongest_eq_some.mpr ⟨run, run' ++ rest, by simp [Cursor.behind], hrun, ?_, ?_⟩
  · exact hb gs k r (by simpa using hk)
  · intro x y hxy hx hxp
    exact tryWith_eq_none (hmax x y hxy hx hxp)

/-- A kept run of a class that is tried from the shortest on is first when no shorter one lets the rest
of the pattern be read. -/
theorem group_few_append (hrun : ∀ c ∈ run, p c) (hb : b.ReadsFirst (pre ++ run) run' rest hs)
    (hmin : ∀ x y, run = x ++ y → y ≠ [] → ¬ b.Starts (pre ++ x) (y ++ (run' ++ rest))) :
    (Pattern.group (few p) ++ b).ReadsFirst pre (run ++ run') rest (run :: hs) := by
  intro gs k r hk
  rw [List.append_assoc]
  refine runShortest_eq_some hrun ?_ fun x y hxy hy => ?_
  · change b.tryWith (.behind (pre ++ run) (run' ++ rest) (gs ++ [(Cursor.behind pre
      (run ++ (run' ++ rest)) gs).upTo (.behind (pre ++ run) (run' ++ rest) gs)])) k = some r
    rw [upTo_behind]
    exact hb (gs ++ [run]) k r (by simpa using hk)
  · exact tryWith_eq_none (hmin x y hxy hy)

/-- The same for a run behind a character of another class, both of them kept. -/
theorem group_one_few_append {p' : Char → Bool} {c : Char} (hc : p' c) (hrun : ∀ c ∈ run, p c)
    (hb : b.ReadsFirst (pre ++ c :: run) run' rest hs)
    (hmin : ∀ x y, run = x ++ y → y ≠ [] → ¬ b.Starts (pre ++ c :: x) (y ++ (run' ++ rest))) :
    (Pattern.group (.one p' ++ few p) ++ b).ReadsFirst pre (c :: run ++ run') rest ((c :: run) :: hs) := by
  intro gs k r hk
  have moved : (pre ++ [c]).getLast? = some c := by simp
  rw [List.append_assoc]
  refine (if_pos hc).trans (moved ▸ runShortest_eq_some hrun ?_ fun x y hxy hy => ?_)
  · change b.tryWith (.behind (pre ++ [c] ++ run) (run' ++ rest) (gs ++ [(Cursor.behind pre
      (c :: run ++ (run' ++ rest)) gs).upTo (.behind (pre ++ [c] ++ run) (run' ++ rest) gs)])) k = some r
    rw [List.append_assoc, List.singleton_append, upTo_behind]
    exact hb (gs ++ [c :: run]) k r (by simpa using hk)
  · rw [List.append_assoc, List.singleton_append]
    exact tryWith_eq_none (hmin x y hxy hy)

theorem many (hrun : ∀ c ∈ run, p c) (hstop : ∀ c ∈ rest.head?, ¬ p c) :
    (many p).ReadsFirst pre run rest [] := by
  intro gs k r hk
  refine runLongest_eq_some.mpr ⟨run, rest, by simp [Cursor.behind], hrun, by simpa using hk, ?_⟩
  intro x y hxy hx hxp
  obtain ⟨c, x, rfl⟩ := List.exists_cons_of_ne_nil hx
  exact absurd (hxp c (by simp)) (hstop c (by simp [hxy]))

theorem many1 (hne : run ≠ []) (hrun : ∀ c ∈ run, p c) (hstop : ∀ c ∈ rest.head?, ¬ p c) :
    (many1 p).ReadsFirst pre run rest [] := by
  obtain ⟨c, run, rfl⟩ := List.exists_cons_of_ne_nil hne
  exact andThen (one (hrun c (by simp))) (many (fun d hd => hrun d (by simp [hd])) hstop)

theorem many1_append (hne : run ≠ []) (hrun : ∀ c ∈ run, p c)
    (hb : b.ReadsFirst (pre ++ run) run' rest hs)
    (hmax : ∀ x y, run' ++ rest = x ++ y → x ≠ [] → (∀ c ∈ x, p c) →
      ¬ b.Starts (pre ++ run ++ x) y) :
    (Pattern.many1 p ++ b).ReadsFirst pre (run ++ run') rest hs := by
  obtain ⟨c, run, rfl⟩ := List.exists_cons_of_ne_nil hne
  change (Pattern.one p ++ (Pattern.many p ++ b)).ReadsFirst pre ([c] ++ (run ++ run')) rest ([] ++ hs)
  refine andThen (one (hrun c (by simp))) ?_
  exact many_append (fun d hd => hrun d (by simp [hd])) (by simpa using hb) (by simpa using hmax)

theorem left (h : a.ReadsFirst pre run rest hs) : (orElse a b).ReadsFirst pre run rest hs := by
  intro gs k r hk
  rw [tryWith_orElse, h gs k r hk, Option.some_or]

theorem right (ha : ¬ a.Starts pre (run ++ rest)) (h : b.ReadsFirst pre run rest hs) :
    (orElse a b).ReadsFirst pre run rest hs := by
  intro gs k r hk
  rw [tryWith_orElse, tryWith_eq_none ha, Option.none_or]
  exact h gs k r hk

theorem optional (h : a.ReadsFirst pre run rest hs) : (optional a).ReadsFirst pre run rest hs :=
  left h

theorem optional_nil (h : ¬ a.Starts pre rest) : (Pattern.optional a).ReadsFirst pre [] rest [] :=
  right h literal

theorem group (h : a.ReadsFirst pre run rest hs) :
    (group a).ReadsFirst pre run rest (hs ++ [run]) := by
  intro gs k r hk
  refine h gs _ r ?_
  rw [upTo_behind]
  simpa [Cursor.behind] using hk

theorem lineStart (h : StartsLine pre) : lineStart.ReadsFirst pre [] rest [] := by
  intro gs k r hk
  simpa [tryWith_lineStart, atLineStart_behind.mpr h] using hk

theorem wordEdge (h : EdgeBetween pre rest) : wordEdge.ReadsFirst pre [] rest [] := by
  intro gs k r hk
  simpa [tryWith_wordEdge, atWordEdge_behind.mpr h] using hk

end ReadsFirst

/-! ## Matches at one place -/

variable {m : Match} {n : Nat}

/-- There is a match exactly when the pattern can be read. -/
theorem matchHere_eq_none : a.matchHere pre.getLast? t n = none ↔ ¬ a.Starts pre t := by
  constructor
  · rintro h ⟨run, rest, gs, rfl, hreads⟩
    have found : (a.tryWith (.behind pre (run ++ rest) []) some).isSome :=
      tryWith_isSome_of_reads hreads rfl
    rw [matchHere, Option.map_eq_none_iff] at h
    exact absurd h (Option.isSome_iff_ne_none.mp found)
  · intro h
    rw [matchHere, Option.map_eq_none_iff]
    exact tryWith_eq_none h

theorem Starts.exists_matchHere (h : a.Starts pre t) (n : Nat) :
    ∃ m, a.matchHere pre.getLast? t n = some m :=
  Option.ne_none_iff_exists'.mp fun hnone => matchHere_eq_none.mp hnone h

theorem starts_iff_of_matchHere (h : a.matchHere pre.getLast? t 0 = b.matchHere pre.getLast? t 0) :
    a.Starts pre t ↔ b.Starts pre t := by
  rw [← not_iff_not, ← matchHere_eq_none, ← matchHere_eq_none, h]

/-- A match is a reading. -/
theorem reads_of_matchHere (h : a.matchHere pre.getLast? t n = some m) :
    ∃ rest, t = m.text ++ rest ∧ a.Reads pre m.text rest m.groups ∧ m.start = n := by
  obtain ⟨d, hd, rfl⟩ := Option.map_eq_some_iff.mp h
  have found : a.tryWith (.behind pre t []) some = some d := hd
  obtain ⟨run, rest, gs, rfl, hreads, hk⟩ := exists_reads_of_tryWith found
  obtain rfl := Option.some.inj hk
  have covered : (Cursor.upTo ⟨pre.getLast?, run ++ rest, []⟩ (.behind (pre ++ run) rest ([] ++ gs))) =
      run := upTo_behind
  refine ⟨rest, ?_, ?_, rfl⟩
  · rw [covered]
  · rw [covered]
    exact hreads

theorem starts_of_matchHere (h : a.matchHere pre.getLast? t n = some m) : a.Starts pre t := by
  obtain ⟨rest, hsplit, hreads, -⟩ := reads_of_matchHere h
  exact ⟨m.text, rest, m.groups, hsplit, hreads⟩

theorem matchHere_of_readsFirst (h : a.ReadsFirst pre run rest gs) :
    a.matchHere pre.getLast? (run ++ rest) n = some ⟨n, run, gs⟩ := by
  have first := h [] some _ rfl
  refine Option.map_eq_some_iff.mpr ⟨_, first, ?_⟩
  have covered : (Cursor.upTo ⟨pre.getLast?, run ++ rest, []⟩ (.behind (pre ++ run) rest ([] ++ gs))) =
      run := upTo_behind
  rw [covered, Cursor.groups_behind, List.nil_append]

end Kudos.Pattern
