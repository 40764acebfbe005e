import Mathlib
import Kudos.Proofs.Files.Tree
import Kudos.Files.Home
import Kudos.Record.Sink

/-!
# Files that can be stored

A file can be stored at a path if the directories on the way can be made and no directory is in the
way. Storing keeps this so, and what was stored is read. A record is added at the end of a file, which is
made where nothing is. A sink spares a file if handing it records leaves the file as it is; a sink that
adds to another file of the same directory does.
-/

namespace Kudos

variable {t t' : FileTree} {p directory : Path} {q place other names : List Text} {bytes : List UInt8}

namespace FileTree

/-- Whether a file can be stored at a path. -/
def Storable (t : FileTree) (p : Path) : Prop :=
  ∀ bytes, ∃ t', t.store p bytes = .ok t'

/-! ## Following names -/

theorem follow_append (names more : List Text) (place : List Text) :
    t.follow place (names ++ more) = t.follow place names >>= fun q => t.follow q more := by
  induction names generalizing place with
  | nil => rfl
  | cons name names ih =>
    simp only [List.cons_append, follow]
    cases t.node? place with
    | none => rfl
    | some node =>
      cases node with
      | file bytes => rfl
      | directory => exact ih _

/-- Names lead where they led before, if an entry that was no directory changes. -/
theorem follow_put (hother : t.node? other ≠ some .directory) (node : FileNode)
    (h : t.follow place names = .ok q) : (t.put other node).follow place names = .ok q := by
  have hne : other ≠ [] := by
    rintro rfl
    exact hother rfl
  induction names generalizing place with
  | nil => exact h
  | cons name names ih =>
    rw [follow] at h ⊢
    cases hplace : t.node? place with
    | none => simp [hplace] at h
    | some found =>
      cases found with
      | file bytes => simp [hplace] at h
      | directory =>
        have hdiffers : place ≠ other := fun heq => hother (heq ▸ hplace)
        have hkept : (t.put other node).node? place = some .directory := by
          rw [node?_put hne, if_neg hdiffers, hplace]
        simp only [hplace, hkept] at h ⊢
        exact ih h

/-- Nothing is made on the way to a directory that is there. -/
theorem makeFrom_of_follow (h : t.follow place names = .ok q) (hq : t.node? q = some .directory) :
    t.makeFrom place names = .ok t := by
  induction names generalizing place with
  | nil => rfl
  | cons name names ih =>
    rw [follow] at h
    rw [makeFrom]
    cases hplace : t.node? place with
    | none => simp [hplace] at h
    | some found =>
      cases found with
      | file bytes => simp [hplace] at h
      | directory =>
        simp only [hplace] at h
        by_cases hname : name = ['.', '.']
        · rw [if_pos hname] at h ⊢
          exact ih h
        · rw [if_neg hname] at h ⊢
          have hnext : t.node? (place ++ [name]) = some .directory := by
            cases names with
            | nil =>
              cases h
              exact hq
            | cons next names =>
              rw [follow] at h
              cases hnode : t.node? (place ++ [name]) with
              | none => simp [hnode] at h
              | some found => cases found <;> simp [hnode] at h ⊢
          simp only [hnext]
          exact ih h

/-- Where a path leads, the directory of its end is there. -/
theorem locate_parent (h : t.locate p = .ok place) (hne : p.names ≠ []) :
    ∃ above, t.locate p.parent = .ok above ∧ t.node? above = some .directory ∧
      place = if p.names.getLast hne = ['.', '.'] then above.dropLast
        else above ++ [p.names.getLast hne] := by
  unfold locate at h
  have hstart : t.start p.parent = t.start p := rfl
  rw [← List.dropLast_append_getLast hne, follow_append] at h
  cases habove : t.follow (t.start p) p.names.dropLast with
  | error e =>
    rw [habove] at h
    cases h
  | ok above =>
    rw [habove, ok_bind, follow] at h
    refine ⟨above, habove, ?_⟩
    cases hnode : t.node? above with
    | none => simp [hnode] at h
    | some found =>
      cases found with
      | file bytes => simp [hnode] at h
      | directory =>
        simp only [hnode] at h
        exact ⟨rfl, (Except.ok.inj h).symm⟩

theorem parent_child (directory : Path) (name : String) : (directory.child name).parent = directory := by
  unfold Path.child Path.parent
  rw [List.dropLast_concat]

theorem locate_child_eq_ok_iff {name : String} (hname : name.toList ≠ ['.', '.']) :
    t.locate (directory.child name) = .ok place ↔
      ∃ above, t.locate directory = .ok above ∧ t.node? above = some .directory ∧
        place = above ++ [name.toList] := by
  have hlast : (directory.child name).names.getLast (by simp [Path.child]) = name.toList :=
    List.getLast_concat
  constructor
  · intro h
    obtain ⟨above, habove, hnode, hplace⟩ := locate_parent h (by simp [Path.child])
    rw [parent_child] at habove
    rw [hlast, if_neg hname] at hplace
    exact ⟨above, habove, hnode, hplace⟩
  · rintro ⟨above, habove, hnode, rfl⟩
    show t.follow (t.start directory) (directory.names ++ [name.toList]) = _
    have habove : t.follow (t.start directory) directory.names = .ok above := habove
    rw [follow_append, habove, ok_bind, follow]
    simp only [hnode, if_neg hname, follow]

theorem makeDirectories_parent (h : t.locate p = .ok place) :
    t.makeDirectories p.parent = .ok t := by
  by_cases hne : p.names = []
  · unfold makeDirectories Path.parent
    rw [hne]
    rfl
  · obtain ⟨above, habove, hnode, -⟩ := locate_parent h hne
    exact makeFrom_of_follow habove hnode

/-! ## Storing -/

theorem read_eq_ok_iff_locate :
    t.read p = .ok bytes ↔ ∃ place, t.locate p = .ok place ∧ t.node? place = some (.file bytes) := by
  unfold read lookup
  constructor
  · intro h
    cases hplace : t.locate p with
    | error e =>
      rw [hplace] at h
      cases h
    | ok place =>
      refine ⟨place, rfl, ?_⟩
      simp only [hplace, ok_bind] at h
      cases hnode : t.node? place with
      | none => rw [hnode] at h; cases h
      | some node =>
        rw [hnode] at h
        cases node <;> cases h
        rfl
  · rintro ⟨place, hplace, hnode⟩
    simp only [hplace, ok_bind, hnode]

theorem write_of_locate (h : t.locate p = .ok place) (hnode : t.node? place ≠ some .directory)
    (bytes : List UInt8) : t.write p bytes = .ok (t.put place (.file bytes)) := by
  unfold write
  simp only [ok_bind, h]

/-- A file that is written lies where no directory was. -/
theorem exists_of_write (h : t.write p bytes = .ok t') :
    ∃ place, t.locate p = .ok place ∧ t.node? place ≠ some .directory ∧
      t' = t.put place (.file bytes) := by
  unfold write at h
  cases hplace : t.locate p with
  | error e =>
    rw [hplace] at h
    cases h
  | ok place =>
    rw [hplace, ok_bind] at h
    refine ⟨place, rfl, ?_⟩
    split at h
    · cases h
    · next hnode => exact ⟨hnode, (Except.ok.inj h).symm⟩

theorem store_of_locate (h : t.locate p = .ok place) (hnode : t.node? place ≠ some .directory)
    (bytes : List UInt8) : t.store p bytes = .ok (t.put place (.file bytes)) := by
  unfold store
  rw [makeDirectories_parent h]
  exact write_of_locate h hnode bytes

/-- A file that is stored lies where no directory was. -/
theorem exists_of_store (h : t.store p bytes = .ok t') :
    ∃ made place, t.makeDirectories p.parent = .ok made ∧ made.locate p = .ok place ∧
      made.node? place ≠ some .directory ∧ t' = made.put place (.file bytes) := by
  unfold store at h
  cases hmade : t.makeDirectories p.parent with
  | error e =>
    rw [hmade] at h
    cases h
  | ok made =>
    rw [hmade, ok_bind] at h
    obtain ⟨place, hplace, hnode, heq⟩ := exists_of_write h
    exact ⟨made, place, rfl, hplace, hnode, heq⟩

/-- An entry that was no directory can be read where a file is put in its place. -/
theorem read_put (h : t.locate p = .ok place) (hnode : t.node? place ≠ some .directory)
    (bytes : List UInt8) : (t.put place (.file bytes)).read p = .ok bytes := by
  have hne : place ≠ [] := by
    rintro rfl
    exact hnode rfl
  refine read_eq_ok_iff_locate.mpr ⟨place, follow_put hnode _ h, ?_⟩
  rw [node?_put hne, if_pos rfl]

/-- What is put elsewhere leaves a file as it is. -/
theorem read_put_of_ne (h : t.read p = .ok bytes) (hplace : t.locate p ≠ .ok other)
    (hnode : t.node? other ≠ some .directory) (node : FileNode) :
    (t.put other node).read p = .ok bytes := by
  obtain ⟨place, hlocate, hfile⟩ := read_eq_ok_iff_locate.mp h
  have hne : other ≠ [] := by
    rintro rfl
    exact hnode rfl
  have hdiffers : place ≠ other := fun heq => hplace (heq ▸ hlocate)
  refine read_eq_ok_iff_locate.mpr ⟨place, follow_put hnode _ hlocate, ?_⟩
  rw [node?_put hne, if_neg hdiffers, hfile]

theorem read_of_write (h : t.write p bytes = .ok t') : t'.read p = .ok bytes := by
  obtain ⟨place, hlocate, hnode, rfl⟩ := exists_of_write h
  exact read_put hlocate hnode bytes

/-- Whether a file can be written does not depend on its bytes. -/
theorem write_of_write (h : t.write p bytes = .ok t') (more : List UInt8) : ∃ t', t.write p more = .ok t' := by
  obtain ⟨place, hlocate, hnode, -⟩ := exists_of_write h
  exact ⟨_, write_of_locate hlocate hnode more⟩

theorem read_of_store (h : t.store p bytes = .ok t') : t'.read p = .ok bytes := by
  obtain ⟨made, place, -, hlocate, hnode, rfl⟩ := exists_of_store h
  exact read_put hlocate hnode bytes

theorem Storable.of_read (h : t.read p = .ok bytes) : t.Storable p := by
  obtain ⟨place, hlocate, hnode⟩ := read_eq_ok_iff_locate.mp h
  have hfile : t.node? place ≠ some .directory := by simp [hnode]
  exact fun bytes => ⟨_, store_of_locate hlocate hfile bytes⟩

theorem contains_of_read (h : t.read p = .ok bytes) : t.contains p := by
  obtain ⟨place, hlocate, hnode⟩ := read_eq_ok_iff_locate.mp h
  unfold contains lookup
  simp [hlocate, hnode, bind, Except.bind]

/-- Whether nothing is at a path, and the directories on the way are there or can be made. -/
def Vacant (t : FileTree) (p : Path) : Prop :=
  ∃ made place, t.makeDirectories p.parent = .ok made ∧ made.locate p = .ok place ∧ made.node? place = none

/-- Where a file can be read, all directories are there. -/
theorem makeDirectories_of_read (h : t.read p = .ok bytes) : t.makeDirectories p.parent = .ok t := by
  obtain ⟨place, hlocate, -⟩ := read_eq_ok_iff_locate.mp h
  exact makeDirectories_parent hlocate

theorem Vacant.storable (h : t.Vacant p) : t.Storable p := by
  obtain ⟨made, place, hmade, hlocate, hnone⟩ := h
  intro bytes
  unfold store
  rw [hmade, ok_bind]
  exact ⟨_, write_of_locate hlocate (by simp [hnone]) bytes⟩

theorem Vacant.read_ne (h : t.Vacant p) (bytes : List UInt8) : t.read p ≠ .ok bytes := by
  obtain ⟨made, place, hmade, hlocate, hnone⟩ := h
  intro hread
  rw [makeDirectories_of_read hread] at hmade
  cases hmade
  obtain ⟨found, hfound, hfile⟩ := read_eq_ok_iff_locate.mp hread
  rw [hlocate] at hfound
  cases hfound
  simp [hnone] at hfile

/-- Making the directories puts nothing at the path itself. -/
theorem Vacant.of_made {made : FileTree} (h : t.Vacant p) (hmade : t.makeDirectories p.parent = .ok made) :
    made.Vacant p := by
  obtain ⟨made', place, hmade', hlocate, hnone⟩ := h
  rw [hmade'] at hmade
  cases hmade
  exact ⟨_, place, makeDirectories_parent hlocate, hlocate, hnone⟩

end FileTree

namespace Sink

/-! ## Adding to a file -/

/-- A record is added at the end of a file that is there. -/
theorem appendRecord_of_read (hread : t.read p = .ok bytes) (collection : Text) (record : Record) :
    ∃ t', appendRecord t p collection record = .ok t' ∧
      t'.read p = .ok (bytes ++ Utf8.encode (record.line collection ++ ['\n'])) := by
  obtain ⟨place, hlocate, hnode⟩ := FileTree.read_eq_ok_iff_locate.mp hread
  unfold appendRecord FileTree.append
  rw [FileTree.makeDirectories_parent hlocate, FileTree.ok_bind, hlocate, FileTree.ok_bind, hnode]
  exact ⟨_, rfl, FileTree.read_put hlocate (by simp [hnode]) _⟩

/-- Where nothing is, the file is made with the record. -/
theorem appendRecord_of_vacant (hvacant : t.Vacant p) (collection : Text) (record : Record) :
    ∃ t', appendRecord t p collection record = .ok t' ∧
      t'.read p = .ok (Utf8.encode (record.line collection ++ ['\n'])) := by
  obtain ⟨made, place, hmade, hlocate, hnone⟩ := hvacant
  unfold appendRecord FileTree.append
  rw [hmade, FileTree.ok_bind, hlocate, FileTree.ok_bind, hnone]
  exact ⟨_, rfl, FileTree.read_put hlocate (by simp [hnone]) _⟩

/-! ## Files that stay -/

/-- Whether the sink leaves a file as it is, whatever records it is handed. -/
def Spares (sink : Sink) (p : Path) : Prop :=
  ∀ (collection : Text) (record : Record) (h : Host) (bytes : List UInt8),
    h.files.read p = .ok bytes →
      (sink.submitInBackground collection record h).files.read p = .ok bytes

/-- What the sink does to the files. -/
theorem files_submitInBackground (sink : Sink) (collection : Text) (record : Record) (h : Host) :
    (sink.submitInBackground collection record h).files =
      match sink with
      | file path =>
        match (record.filed collection).overrun? h.limits, appendRecord h.files path collection record with
        | none, .ok files => files
        | _, _ => h.files
      | _ => h.files := by
  unfold submitInBackground submitSafely submit
  cases sink with
  | memory fails =>
    dsimp only
    cases fails h.attempts with
    | none => rfl
    | some cause =>
      dsimp only
      split <;> rfl
  | file path =>
    dsimp only
    cases (record.filed collection).overrun? h.limits with
    | some limit =>
      dsimp only
      split <;> rfl
    | none => cases appendRecord h.files path collection record <;> rfl
  | server endpoint timeout =>
    dsimp only
    cases record.toJson.overrun? h.limits with
    | some limit =>
      dsimp only
      split <;> rfl
    | none =>
      dsimp only
      cases post endpoint timeout collection record with
      | ok p => rfl
      | error cause =>
        dsimp only
        split <;> rfl

theorem spares_memory (fails : Nat → Option Failure) (p : Path) : (memory fails).Spares p := by
  intro collection record h bytes hread
  rwa [files_submitInBackground]

theorem spares_server (endpoint : Text) (timeout : Number) (p : Path) :
    (server endpoint timeout).Spares p := by
  intro collection record h bytes hread
  rwa [files_submitInBackground]

/-- A sink that adds to a file spares another file of the same directory. -/
theorem spares_file {a b : String} (hne : a.toList ≠ b.toList) (ha : a.toList ≠ ['.', '.'])
    (hb : b.toList ≠ ['.', '.']) : (file (directory.child a)).Spares (directory.child b) := by
  intro collection record h bytes hread
  obtain ⟨place, hplace, -⟩ := FileTree.read_eq_ok_iff_locate.mp hread
  obtain ⟨above, habove, hnode, -⟩ := (FileTree.locate_child_eq_ok_iff hb).mp hplace
  have hplace' : h.files.locate (directory.child a) = .ok (above ++ [a.toList]) :=
    (FileTree.locate_child_eq_ok_iff ha).mpr ⟨above, habove, hnode, rfl⟩
  have helsewhere : h.files.locate (directory.child b) ≠ .ok (above ++ [a.toList]) := by
    intro heq
    obtain ⟨above', habove', -, hsame⟩ := (FileTree.locate_child_eq_ok_iff hb).mp heq
    rw [habove] at habove'
    cases habove'
    exact hne (by simpa using hsame)
  rw [files_submitInBackground]
  dsimp only
  cases (record.filed collection).overrun? h.limits with
  | some limit => exact hread
  | none =>
    unfold appendRecord FileTree.append
    rw [FileTree.makeDirectories_parent hplace', FileTree.ok_bind, hplace', FileTree.ok_bind]
    cases hfound : h.files.node? (above ++ [a.toList]) with
    | none => exact FileTree.read_put_of_ne hread helsewhere (by simp [hfound]) _
    | some found =>
      cases found with
      | file old => exact FileTree.read_put_of_ne hread helsewhere (by simp [hfound]) _
      | directory => exact hread

/-- The sink of the settings spares the state file of the same home. -/
theorem spares_ofSetting (home : Home) (endpoint : Text) :
    (ofSetting home.records endpoint).Spares home.state := by
  unfold ofSetting
  split
  · exact spares_file (by decide) (by decide) (by decide)
  · exact spares_server _ _ _

end Sink

end Kudos
