import Mathlib
import Kudos.Proofs.Pattern.Reading

/-!
# Finding all matches

How the search for all matches walks through a text: it passes over what cannot start a match
(`foundBehind_append_of_quiet`), records a match and goes on behind it (`foundBehind_of_match`), and
stands at every place that no match covers (`foundBehind_append_of_exposed`). The search is looked at
from a place in the middle of a text, behind `pre`, so that each step leaves the next place.
-/

namespace Kudos.Pattern

variable {a : Pattern} {p : Char → Bool} {pre run rest t x y z : Text} {gs : List Text}
  {m : Match} {n : Nat}

/-- The matches that are found from the place behind `pre` on. -/
def foundBehind (a : Pattern) (pre t : Text) : List Match :=
  a.foundFrom pre.getLast? t pre.length 0

/-- The pattern cannot be read from any place inside `x` when `t` follows. -/
def Quiet (a : Pattern) (pre x t : Text) : Prop :=
  ∀ y z, x = y ++ z → z ≠ [] → ¬ a.Starts (pre ++ y) (z ++ t)

/-! ## Steps of the search -/

theorem found_eq_foundBehind (a : Pattern) (t : Text) : a.found t = a.foundBehind [] t := rfl

@[simp] theorem foundBehind_nil : a.foundBehind pre [] = [] := by
  simp [foundBehind, foundFrom]

theorem foundFrom_skip : a.foundFrom pre.getLast? (x ++ t) n x.length =
    a.foundFrom (pre ++ x).getLast? t (n + x.length) 0 := by
  induction x generalizing pre n with
  | nil => simp
  | cons c x ih =>
    have moved : (pre ++ [c]).getLast? = some c := by simp
    rw [List.cons_append, List.length_cons, foundFrom, ← moved, ih]
    congr 1
    · simp
    · omega

theorem foundBehind_cons {c : Char}
    (h : ∀ m, a.matchHere pre.getLast? (c :: t) pre.length = some m → m.text = []) :
    a.foundBehind pre (c :: t) = a.foundBehind (pre ++ [c]) t := by
  have moved : (pre ++ [c]).getLast? = some c := by simp
  rw [foundBehind, foundFrom, foundBehind, moved, List.length_append, List.length_singleton]
  split
  case h_1 m hm => simp [h m hm]
  case h_2 => rfl

/-- A match is recorded, and the search goes on behind it. -/
theorem foundBehind_of_match (hne : run ≠ [])
    (h : a.matchHere pre.getLast? (run ++ rest) pre.length = some ⟨pre.length, run, gs⟩) :
    a.foundBehind pre (run ++ rest) = ⟨pre.length, run, gs⟩ :: a.foundBehind (pre ++ run) rest := by
  obtain ⟨c, run, rfl⟩ := List.exists_cons_of_ne_nil hne
  have moved : (pre ++ [c]).getLast? = some c := by simp
  rw [foundBehind, List.cons_append, foundFrom]
  rw [List.cons_append] at h
  rw [h]
  simp only [List.length_cons]
  rw [← moved, foundFrom_skip, foundBehind]
  congr 2
  · simp
  · simp
    omega

/-- The search either goes on by one character, when there is no match that covers any, or by a whole
match. -/
@[elab_as_elim]
theorem foundBehind_induction (a : Pattern) {motive : Text → Text → Prop}
    (nil : ∀ pre, motive pre [])
    (pass : ∀ pre c t, (∀ m, a.matchHere pre.getLast? (c :: t) pre.length = some m → m.text = []) →
      motive (pre ++ [c]) t → motive pre (c :: t))
    (hit : ∀ pre run rest gs, run ≠ [] →
      a.matchHere pre.getLast? (run ++ rest) pre.length = some ⟨pre.length, run, gs⟩ →
        motive (pre ++ run) rest → motive pre (run ++ rest))
    (pre t : Text) : motive pre t := by
  induction hn : t.length using Nat.strong_induction_on generalizing pre t with
  | _ n ih =>
    subst hn
    match t with
    | [] => exact nil pre
    | c :: t =>
      by_cases hm : ∀ m, a.matchHere pre.getLast? (c :: t) pre.length = some m → m.text = []
      · exact pass pre c t hm (ih t.length (by simp) _ _ rfl)
      · push Not at hm
        obtain ⟨⟨start, run, gs⟩, hm, hne⟩ := hm
        obtain ⟨rest, hsplit, -, hstart⟩ := reads_of_matchHere hm
        simp only at hsplit hstart hne
        subst hstart
        have shorter : rest.length < (c :: t).length := by
          have := List.length_pos_iff.mpr hne
          rw [hsplit, List.length_append]
          omega
        rw [hsplit] at hm ⊢
        exact hit pre run rest gs hne hm (ih rest.length shorter _ _ rfl)

/-! ## Quiet stretches -/

theorem Quiet.nil : a.Quiet pre [] t := by
  intro y z hyz hz
  simp_all

theorem Quiet.append (hx : a.Quiet pre x (y ++ t)) (hy : a.Quiet (pre ++ x) y t) :
    a.Quiet pre (x ++ y) t := by
  intro u v huv hv
  rcases List.append_eq_append_iff.mp huv with ⟨w, rfl, rfl⟩ | ⟨w, rfl, rfl⟩
  · simpa using hy w v rfl hv
  · by_cases hw : w = []
    · subst hw
      simpa using hy [] y rfl (by simpa using hv)
    · simpa using hx u w rfl hw

theorem Quiet.left (h : a.Quiet pre (x ++ y) t) : a.Quiet pre x (y ++ t) := by
  intro u v huv hv
  have longer := h u (v ++ y) (by simp [huv]) (by simp [hv])
  rwa [List.append_assoc] at longer

/-- Nothing is read from inside a stretch none of whose characters can start the pattern. -/
theorem quiet_of_forall (h : ∀ c ∈ x, ∀ u v, ¬ a.Starts u (c :: v)) : a.Quiet pre x t := by
  rintro y (_ | ⟨c, z⟩) rfl hz
  · exact absurd rfl hz
  · exact h c (by simp) _ _

/-- A stretch is quiet, or it has a first place where the pattern can be read. -/
theorem quiet_or_exists_starts (a : Pattern) (pre x t : Text) : a.Quiet pre x t ∨
    ∃ y z, x = y ++ z ∧ z ≠ [] ∧ a.Quiet pre y (z ++ t) ∧ a.Starts (pre ++ y) (z ++ t) := by
  induction x generalizing pre with
  | nil => exact .inl .nil
  | cons c x ih =>
    by_cases here : a.Starts pre (c :: (x ++ t))
    · exact .inr ⟨[], c :: x, rfl, by simp, .nil, by simpa using here⟩
    · have first : ∀ t', c :: (x ++ t) = c :: t' → a.Quiet pre [c] t' := by
        rintro t' ht' y z hyz hz
        obtain ⟨rfl, -⟩ : y = [] ∧ z = [c] := by
          cases y with
          | nil => exact ⟨rfl, by simpa using hyz.symm⟩
          | cons d y => simp_all
        rw [List.nil_append] at hyz
        rw [← hyz, List.append_nil, List.singleton_append, ← ht']
        exact here
      rcases ih (pre ++ [c]) with quiet | ⟨y, z, rfl, hz, quiet, hstarts⟩
      · exact .inl ((first _ rfl).append quiet)
      · refine .inr ⟨c :: y, z, rfl, hz, ?_, by simpa using hstarts⟩
        exact (first _ (by simp)).append quiet

/-- A quiet stretch is passed over. -/
theorem foundBehind_append_of_quiet (h : a.Quiet pre x t) :
    a.foundBehind pre (x ++ t) = a.foundBehind (pre ++ x) t := by
  induction x generalizing pre with
  | nil => simp
  | cons c x ih =>
    have here : a.matchHere pre.getLast? (c :: (x ++ t)) pre.length = none :=
      matchHere_eq_none.mpr (by simpa using h [] (c :: x) rfl (by simp))
    have onward : a.Quiet (pre ++ [c]) x t := by
      intro y z hyz hz
      simpa using h (c :: y) z (by simp [hyz]) hz
    rw [List.cons_append, foundBehind_cons (by simp [here]), ih onward, List.append_assoc,
      List.singleton_append]

theorem foundBehind_of_quiet (h : a.Quiet pre t []) : a.foundBehind pre t = [] := by
  have := foundBehind_append_of_quiet h
  simpa using this

/-- The search passes over a quiet stretch and records the match behind it. -/
theorem foundBehind_of_readsFirst (hx : a.Quiet pre x (run ++ rest)) (hne : run ≠ [])
    (h : a.ReadsFirst (pre ++ x) run rest gs) :
    a.foundBehind pre (x ++ (run ++ rest)) =
      ⟨(pre ++ x).length, run, gs⟩ :: a.foundBehind (pre ++ x ++ run) rest := by
  rw [foundBehind_append_of_quiet hx, foundBehind_of_match hne (matchHere_of_readsFirst h)]

/-! ## Places that no match covers -/

/-- Whether the place with `n` characters before it lies inside one of some matches. -/
def Covered (ms : List Match) (n : Nat) : Prop :=
  ∃ m ∈ ms, m.start < n ∧ n < m.stop

/-- The search stands at every place that none of its matches covers. What it finds before that place
also ends before it. -/
theorem foundBehind_append_of_exposed
    (h : ¬ Covered (a.foundBehind pre (x ++ t)) (pre ++ x).length) :
    ∃ ms, a.foundBehind pre (x ++ t) = ms ++ a.foundBehind (pre ++ x) t ∧
      ∀ m ∈ ms, pre.length ≤ m.start ∧ m.start < m.stop ∧ m.stop ≤ (pre ++ x).length := by
  induction hn : x.length using Nat.strong_induction_on generalizing pre x with
  | _ n ih =>
    subst hn
    match x with
    | [] => exact ⟨[], by simp, by simp⟩
    | c :: x =>
      by_cases hm : ∀ m, a.matchHere pre.getLast? (c :: (x ++ t)) pre.length = some m → m.text = []
      · rw [List.cons_append, foundBehind_cons hm] at h ⊢
        have onward : ¬ Covered (a.foundBehind (pre ++ [c]) (x ++ t)) (pre ++ [c] ++ x).length := by
          simpa using h
        obtain ⟨ms, hms, hends⟩ := ih x.length (by simp) onward rfl
        refine ⟨ms, by simpa using hms, fun m hm => ?_⟩
        have := hends m hm
        simp at this ⊢
        omega
      · push Not at hm
        obtain ⟨⟨start, run, gs⟩, hm, hne⟩ := hm
        obtain ⟨rest, hsplit, -, hstart⟩ := reads_of_matchHere hm
        simp only at hsplit hstart hne
        subst hstart
        rw [hsplit] at hm
        rw [List.cons_append, hsplit, foundBehind_of_match hne hm] at h ⊢
        have hlen := congrArg List.length hsplit
        simp only [List.length_cons, List.length_append] at hlen
        rw [← List.cons_append] at hsplit
        rcases List.append_eq_append_iff.mp hsplit with ⟨w, hw, rfl⟩ | ⟨w, hw, rfl⟩
        · -- The match reaches to the place or beyond it, so it ends there.
          have hstop : w = [] := by
            by_contra hwne
            refine h ⟨_, List.mem_cons_self .., ?_, ?_⟩
            · simp
            · have := List.length_pos_iff.mpr hwne
              simp [Match.stop, hw]
              omega
          subst hstop
          obtain rfl : run = c :: x := by simpa using hw
          refine ⟨[⟨pre.length, c :: x, gs⟩], by simp, ?_⟩
          simp [Match.stop]
        · obtain ⟨d, run, rfl⟩ := List.exists_cons_of_ne_nil hne
          obtain ⟨rfl, rfl⟩ := List.cons.inj hw
          have onward : ¬ Covered (a.foundBehind (pre ++ c :: run) (w ++ t))
              (pre ++ c :: run ++ w).length := by
            rintro ⟨m, hmem, hcover⟩
            exact h ⟨m, List.mem_cons_of_mem _ hmem, by simpa using hcover⟩
          obtain ⟨ms, hms, hends⟩ := ih w.length (by simp) onward rfl
          refine ⟨⟨pre.length, c :: run, gs⟩ :: ms, by simpa using hms, ?_⟩
          intro m hmem
          rcases List.mem_cons.mp hmem with rfl | hmem
          · simp [Match.stop]
          · have := hends m hmem
            simp at this ⊢
            omega

/-- The match at a place that no match covers is found. -/
theorem mem_found_of_exposed (h : ¬ Covered (a.found (x ++ t)) x.length) (hne : m.text ≠ [])
    (hm : a.matchHere x.getLast? t x.length = some m) : m ∈ a.found (x ++ t) := by
  have exposed : ¬ Covered (a.foundBehind [] (x ++ t)) ([] ++ x).length := h
  obtain ⟨ms, hfound, -⟩ := foundBehind_append_of_exposed exposed
  obtain ⟨start, run, gs⟩ := m
  obtain ⟨rest, rfl, -, rfl⟩ := reads_of_matchHere hm
  rw [List.nil_append, foundBehind_of_match hne hm] at hfound
  rw [found_eq_foundBehind, hfound]
  exact List.mem_append_right _ (List.mem_cons_self ..)

/-- What is found is a match at the place where it starts. -/
theorem exists_of_mem_foundBehind (h : m ∈ a.foundBehind pre t) :
    ∃ x y, t = x ++ y ∧ m.text ≠ [] ∧ m.start = (pre ++ x).length ∧
      a.matchHere (pre ++ x).getLast? y (pre ++ x).length = some m := by
  induction pre, t using foundBehind_induction a with
  | nil pre => simp at h
  | pass pre c t hm ih =>
    rw [foundBehind_cons hm] at h
    obtain ⟨x, y, rfl, hne, hstart, hhere⟩ := ih h
    exact ⟨c :: x, y, rfl, hne, by simpa using hstart, by simpa using hhere⟩
  | hit pre run rest gs hne hm ih =>
    rw [foundBehind_of_match hne hm] at h
    rcases List.mem_cons.mp h with rfl | h
    · exact ⟨[], run ++ rest, rfl, hne, by simp, by simpa using hm⟩
    · obtain ⟨x, y, rfl, hne', hstart, hhere⟩ := ih h
      exact ⟨run ++ x, y, by simp, hne', by simpa using hstart, by simpa using hhere⟩

/-- A match is a part of the text that its pattern reads. -/
theorem exists_reads_of_mem_found (h : m ∈ a.found t) :
    ∃ x rest, t = x ++ (m.text ++ rest) ∧ m.start = x.length ∧ a.Reads x m.text rest m.groups := by
  rw [found_eq_foundBehind] at h
  obtain ⟨x, y, rfl, -, hstart, hhere⟩ := exists_of_mem_foundBehind h
  obtain ⟨rest, rfl, hreads, -⟩ := reads_of_matchHere hhere
  exact ⟨x, rest, rfl, hstart, hreads⟩

/-- The text that a match is found at starts the way its pattern demands. -/
theorem exists_starts_of_mem_found (h : m ∈ a.found t) :
    ∃ x y, t = x ++ y ∧ m.start = x.length ∧ a.Starts x y := by
  obtain ⟨x, rest, rfl, hstart, hreads⟩ := exists_reads_of_mem_found h
  exact ⟨x, _, rfl, hstart, m.text, rest, m.groups, rfl, hreads⟩

/-- Each match ends before the next one starts. -/
theorem pairwise_foundBehind (a : Pattern) (pre t : Text) :
    (a.foundBehind pre t).Pairwise fun m m' => m.stop ≤ m'.start := by
  induction pre, t using foundBehind_induction a with
  | nil pre => simp
  | pass pre c t hm ih => rwa [foundBehind_cons hm]
  | hit pre run rest gs hne hm ih =>
    rw [foundBehind_of_match hne hm]
    refine List.pairwise_cons.mpr ⟨fun m hmem => ?_, ih⟩
    obtain ⟨x, _, -, -, hstart, -⟩ := exists_of_mem_foundBehind hmem
    simp [hstart, Match.stop]

/-- Matches start in strictly ascending order. -/
theorem pairwise_start_found (a : Pattern) (t : Text) :
    (a.found t).Pairwise fun m m' => m.start < m'.start := by
  rw [found_eq_foundBehind]
  refine (pairwise_foundBehind a [] t).imp_of_mem fun {m m'} hm _ hstop => ?_
  obtain ⟨_, _, -, hne, -, -⟩ := exists_of_mem_foundBehind hm
  have := List.length_pos_iff.mpr hne
  rw [Match.stop] at hstop
  omega

theorem start_le_of_mem_found (h : m ∈ a.found t) : m.start ≤ t.length := by
  rw [found_eq_foundBehind] at h
  obtain ⟨x, y, rfl, -, hstart, -⟩ := exists_of_mem_foundBehind h
  rw [hstart, List.nil_append, List.length_append]
  omega

/-- A pattern that reads no newline has no match that covers the start of a line. -/
theorem not_covered_of_startsLine (ha : a.ReadsOnly (· ≠ '\n')) (hx : StartsLine x) :
    ¬ Covered (a.found (x ++ t)) x.length := by
  rintro ⟨m, hm, hstart, hstop⟩
  obtain ⟨y, rest, hsplit, hy, hreads⟩ := exists_reads_of_mem_found hm
  -- The match covers the last character before the place, which is a newline.
  have hlonger : y.length < x.length := by omega
  rcases List.append_eq_append_iff.mp hsplit with ⟨w, rfl, -⟩ | ⟨w, rfl, hw⟩
  · simp at hlonger
  · have hne : w ≠ [] := by
      rintro rfl
      simp at hlonger
    have hnewline : '\n' ∈ w := hx.newline_mem hne
    rcases List.append_eq_append_iff.mp hw with ⟨v, rfl, -⟩ | ⟨v, hv, -⟩
    · rw [Match.stop, hy] at hstop
      simp at hstop
    · refine hreads.forall_mem ha '\n' ?_ rfl
      rw [hv]
      exact List.mem_append_left _ hnewline

/-! ## Searching -/

/-- A text holds a match exactly when the pattern can be read somewhere in it. -/
theorem searchFrom_isSome :
    (a.searchFrom pre.getLast? t n).isSome ↔ ∃ x y, t = x ++ y ∧ a.Starts (pre ++ x) y := by
  induction t generalizing pre n with
  | nil =>
    rw [searchFrom, Option.isSome_iff_ne_none, Ne, matchHere_eq_none, not_not]
    simp
  | cons c t ih =>
    have moved : (pre ++ [c]).getLast? = some c := by simp
    have later : (∃ x y, c :: t = x ++ y ∧ a.Starts (pre ++ x) y) ↔
        a.Starts pre (c :: t) ∨ ∃ x y, t = x ++ y ∧ a.Starts (pre ++ [c] ++ x) y := by
      constructor
      · rintro ⟨x, y, hxy, hs⟩
        rcases List.cons_eq_append_iff.mp hxy with ⟨rfl, rfl⟩ | ⟨x, rfl, rfl⟩
        · exact .inl (by simpa using hs)
        · exact .inr ⟨x, y, rfl, by simpa using hs⟩
      · rintro (hs | ⟨x, y, rfl, hs⟩)
        · exact ⟨[], c :: t, rfl, by simpa using hs⟩
        · exact ⟨c :: x, y, rfl, by simpa using hs⟩
    rw [searchFrom, later]
    split
    case h_1 m hm =>
      simp [starts_of_matchHere hm]
    case h_2 hm =>
      rw [← moved, ih]
      simp [matchHere_eq_none.mp hm]

theorem search_isSome : (a.search t).isSome ↔ ∃ x y, t = x ++ y ∧ a.Starts x y := by
  have behind : (a.searchFrom ([] : Text).getLast? t 0).isSome ↔
      ∃ x y, t = x ++ y ∧ a.Starts ([] ++ x) y := searchFrom_isSome
  exact behind

/-! ## Pieces -/

/-- The pieces of the text behind a place. -/
def piecesBehind (a : Pattern) (pre t : Text) : List Text :=
  between t pre.length (a.foundBehind pre t)

theorem piecesBehind_of_quiet (h : a.Quiet pre t []) : a.piecesBehind pre t = [t] := by
  rw [piecesBehind, foundBehind_of_quiet h, between]

/-- The stretch before the first match is the first piece. -/
theorem piecesBehind_of_readsFirst (hx : a.Quiet pre x (run ++ rest)) (hne : run ≠ [])
    (h : a.ReadsFirst (pre ++ x) run rest gs) :
    a.piecesBehind pre (x ++ (run ++ rest)) = x :: a.piecesBehind (pre ++ x ++ run) rest := by
  rw [piecesBehind, foundBehind_of_readsFirst hx hne h, between, piecesBehind]
  congr 1
  · simp
  · have passed : (pre ++ x).length + run.length - pre.length = (x ++ run).length := by
      simp
      omega
    congr 1
    · rw [Match.stop, passed, ← List.append_assoc, List.drop_left]
    · simp [Match.stop]
      omega

/-- The first piece of a text goes beyond a quiet stretch at its start. -/
theorem exists_headD_piecesBehind (h : a.Quiet pre x t) :
    ∃ y, y <+: t ∧ (a.piecesBehind pre (x ++ t)).headD [] = x ++ y := by
  rw [piecesBehind, foundBehind_append_of_quiet h]
  cases hfound : a.foundBehind (pre ++ x) t with
  | nil => exact ⟨t, List.prefix_rfl, rfl⟩
  | cons m ms =>
    obtain ⟨u, v, rfl, -, hstart, -⟩ :=
      exists_of_mem_foundBehind (hfound ▸ List.mem_cons_self .. : m ∈ a.foundBehind (pre ++ x) t)
    refine ⟨u, List.prefix_append u v, ?_⟩
    have passed : m.start - pre.length = (x ++ u).length := by
      rw [hstart]
      simp
    rw [between, List.headD_cons, passed, ← List.append_assoc, List.take_left]

theorem cut_of_readsFirst (hx : a.Quiet [] x (run ++ rest)) (hne : run ≠ [])
    (h : a.ReadsFirst x run rest gs) : a.cut (x ++ (run ++ rest)) = some (x, rest) := by
  rw [cut, found_eq_foundBehind, foundBehind_of_readsFirst hx hne h]
  simp [Match.stop]

end Kudos.Pattern
