import Mathlib
import Kudos.Files.Tree

/-!
# Writing over a file

A resolved path has no double dots, so it is followed straight down (`follow_eq_ok_iff`). A file that
can be read at such a path can be written, for all directories on the way exist, and what was written
is read.
-/

namespace Kudos

variable {t : FileTree} {p : Path} {place names : List Text} {bytes old : List UInt8}

/-- Whether a path leads from the root straight down to its end. -/
structure Path.Resolved (p : Path) : Prop where
  root_ne : p.root ≠ []
  straight : ['.', '.'] ∉ p.names

theorem Path.not_mem_resolveNames (names : List Text) : ['.', '.'] ∉ resolveNames names := by
  have kept : ∀ (names up : List Text), ['.', '.'] ∉ up →
      ['.', '.'] ∉ names.foldl
        (fun up name => if name = ['.', '.'] then up.drop 1 else name :: up) up := by
    intro names
    induction names with
    | nil => exact fun up hup => hup
    | cons name names ih =>
      intro up hup
      refine ih _ ?_
      dsimp only
      split
      · exact fun hmem => hup (List.mem_of_mem_drop hmem)
      · next hname => exact List.not_mem_cons_of_ne_of_not_mem (Ne.symm hname) hup
  unfold resolveNames
  rw [List.mem_reverse]
  exact kept names [] List.not_mem_nil

namespace FileTree

theorem resolved_resolve (t : FileTree) (p : Path) : (t.resolve p).Resolved where
  root_ne := by
    unfold resolve
    dsimp only
    split
    · decide
    · next hroot => exact fun hnil => hroot (List.isEmpty_iff.mpr hnil)
  straight := Path.not_mem_resolveNames _

theorem start_eq_nil (t : FileTree) (h : p.Resolved) : t.start p = [] :=
  if_neg fun hempty => h.root_ne (List.isEmpty_iff.mp hempty)

/-- Names without double dots are followed if there is a directory before each of them. -/
theorem follow_eq_ok_iff (h : ['.', '.'] ∉ names) {q : List Text} :
    t.follow place names = .ok q ↔
      q = place ++ names ∧ ∀ k < names.length, t.node? (place ++ names.take k) = some .directory := by
  induction names generalizing place with
  | nil =>
    simp only [follow, Except.ok.injEq, List.append_nil, List.length_nil, Nat.not_lt_zero,
      IsEmpty.forall_iff, implies_true, and_true]
    exact eq_comm
  | cons name names ih =>
    obtain ⟨hname, hnames⟩ := List.ne_and_not_mem_of_not_mem_cons h
    have behind : (∀ k < (name :: names).length,
        t.node? (place ++ (name :: names).take k) = some .directory) ↔
        t.node? place = some .directory ∧
          ∀ k < names.length, t.node? (place ++ [name] ++ names.take k) = some .directory := by
      constructor
      · intro hdir
        refine ⟨by simpa using hdir 0 (by simp), fun k hk => ?_⟩
        simpa using hdir (k + 1) (by simpa using hk)
      · rintro ⟨hplace, hdir⟩ k hk
        cases k with
        | zero => simpa using hplace
        | succ k => simpa using hdir k (by simpa using hk)
    rw [behind, follow]
    cases hnode : t.node? place with
    | none => simp
    | some node =>
      cases node with
      | file bytes => simp
      | directory =>
        dsimp only
        rw [if_neg (Ne.symm hname), ih hnames]
        simp

/-- Nothing is made where all directories are there already. -/
theorem makeFrom_eq_self (h : ['.', '.'] ∉ names)
    (hdir : ∀ k < names.length, t.node? (place ++ names.take (k + 1)) = some .directory) :
    t.makeFrom place names = .ok t := by
  induction names generalizing place with
  | nil => rfl
  | cons name names ih =>
    obtain ⟨hname, hnames⟩ := List.ne_and_not_mem_of_not_mem_cons h
    have hnext : t.node? (place ++ [name]) = some .directory := by simpa using hdir 0 (by simp)
    rw [makeFrom, if_neg (Ne.symm hname)]
    simp only [hnext]
    refine ih hnames fun k hk => ?_
    simpa using hdir (k + 1) (by simpa using hk)

theorem node?_put (hplace : place ≠ []) (node : FileNode) (q : List Text) :
    (t.put place node).node? q = if q = place then some node else t.node? q := by
  unfold node? put
  by_cases hq : q = place
  · rw [if_pos hq, if_neg (by simp [hq, hplace])]
    simp [hq]
  · rw [if_neg hq]
    congr 2
    have skipped : ∀ entries : List (List Text × FileNode),
        (entries.filter fun e => e.1 ≠ place).find? (fun e => e.1 = q) =
          entries.find? fun e => e.1 = q := by
      intro entries
      rw [List.find?_filter]
      congr 1
      ext e
      by_cases he : e.1 = q <;> simp [he, hq]
    rw [List.find?_cons, skipped]
    simp [Ne.symm hq]

theorem ok_bind {α β : Type} (x : α) (f : α → Except FileError β) :
    ((Except.ok x : Except FileError α) >>= f) = f x := rfl

theorem locate_eq_ok_iff (hp : p.Resolved) {q : List Text} : t.locate p = .ok q ↔
    q = p.names ∧ ∀ k < p.names.length, t.node? (p.names.take k) = some .directory := by
  unfold locate
  rw [start_eq_nil t hp, follow_eq_ok_iff hp.straight]
  simp

/-- A file is read at the end of the names if there is a directory before each of them. -/
theorem read_eq_ok_iff (hp : p.Resolved) : t.read p = .ok bytes ↔
    (∀ k < p.names.length, t.node? (p.names.take k) = some .directory) ∧
      t.node? p.names = some (.file bytes) := by
  unfold read lookup
  cases hplace : t.locate p with
  | error e =>
    have hdir : ¬ ∀ k < p.names.length, t.node? (p.names.take k) = some .directory := by
      intro hdir
      rw [(locate_eq_ok_iff hp).mpr ⟨rfl, hdir⟩] at hplace
      cases hplace
    simp only [hdir, false_and, iff_false]
    exact fun h => by cases h
  | ok q =>
    obtain ⟨rfl, hdir⟩ := (locate_eq_ok_iff hp).mp hplace
    simp only [ok_bind]
    constructor
    · intro h
      refine ⟨hdir, ?_⟩
      cases hnode : t.node? p.names with
      | none => rw [hnode] at h; cases h
      | some node =>
        rw [hnode] at h
        cases node <;> cases h
        rfl
    · rintro ⟨-, hfile⟩
      rw [hfile]
      rfl

/-- What is written over a file is read. -/
theorem read_store (hp : p.Resolved) (h : t.read p = .ok old) (bytes : List UInt8) :
    ∃ t', t.store p bytes = .ok t' ∧ t'.read p = .ok bytes := by
  obtain ⟨hdir, hfile⟩ := (read_eq_ok_iff hp).mp h
  have hmade : t.makeDirectories p.parent = .ok t := by
    have hparent : p.parent.Resolved :=
      ⟨hp.root_ne, fun hmem => hp.straight (List.dropLast_subset _ hmem)⟩
    unfold makeDirectories
    rw [start_eq_nil t hparent]
    refine makeFrom_eq_self hparent.straight fun k hk => ?_
    have hlength : p.parent.names.length = p.names.length - 1 := List.length_dropLast
    have hnode := hdir (k + 1) (by omega)
    have hnames : p.parent.names.take (k + 1) = p.names.take (k + 1) := by
      show p.names.dropLast.take (k + 1) = p.names.take (k + 1)
      rw [List.dropLast_eq_take, List.take_take, Nat.min_eq_left (by omega)]
    rwa [List.nil_append, hnames]
  have hplace : t.locate p = .ok p.names := (locate_eq_ok_iff hp).mpr ⟨rfl, hdir⟩
  refine ⟨t.put p.names (.file bytes), ?_, ?_⟩
  · unfold store write
    rw [hmade]
    simp only [ok_bind, hplace, hfile]
  · have hne : p.names ≠ [] := by
      intro hnil
      simp [hnil, node?] at hfile
    refine (read_eq_ok_iff hp).mpr ⟨fun k hk => ?_, ?_⟩
    · have hshort : p.names.take k ≠ p.names := by
        intro heq
        have := congrArg List.length heq
        rw [List.length_take] at this
        omega
      rw [node?_put hne, if_neg hshort, hdir k hk]
    · rw [node?_put hne, if_pos rfl]

end FileTree

end Kudos
