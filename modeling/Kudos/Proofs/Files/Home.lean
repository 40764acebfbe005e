import Mathlib
import Kudos.Proofs.Identity.Deeds

/-!
# The files of a home directory

A new home directory is empty, or missing and can be made. What is done in it, however often, lets
the file of the records grow by one line for each record that is handed over, and by nothing else
(`Does.holdsRecords`). This takes records that keep within the limits of the host, as those do that hold
texts, times and short numbers.
-/

namespace Kudos

variable {home : Home} {t t' made : FileTree} {place : List Text} {name : String}
  {bytes : List UInt8} {h h' : Host} {d : Deed} {ds : List Deed}

namespace Home

/-- Whether the home directory is at a place, once the directories on the way are made. -/
structure Made (home : Home) (t made : FileTree) (place : List Text) : Prop where
  made_eq : t.makeDirectories home.directory = .ok made
  locate_eq : made.locate home.directory = .ok place
  directory : made.node? place = some .directory

/-- Whether the home directory is there, or can be made, without an entry of some name. -/
def Lacks (home : Home) (t : FileTree) (name : String) : Prop :=
  ∃ made place, home.Made t made place ∧ made.node? (place ++ [name.toList]) = none

/-- Whether the home directory is empty, or can be made. -/
def IsNew (home : Home) (t : FileTree) : Prop :=
  ∃ made place, home.Made t made place ∧ ∀ name, made.node? (place ++ [name]) = none

theorem IsNew.lacks (hnew : home.IsNew t) (name : String) : home.Lacks t name := by
  obtain ⟨made, place, hmade, hnone⟩ := hnew
  exact ⟨made, place, hmade, hnone _⟩

/-! ## One file -/

theorem Made.locate_child (hmade : home.Made t made place) (hname : name.toList ≠ ['.', '.']) :
    made.locate (home.directory.child name) = .ok (place ++ [name.toList]) :=
  (FileTree.locate_child_eq_ok_iff hname).mpr ⟨place, hmade.locate_eq, hmade.directory, rfl⟩

/-- Where an entry can be found without making anything, the home directory is there. -/
theorem made_of_locate (hname : name.toList ≠ ['.', '.'])
    (hlocate : t.locate (home.directory.child name) = .ok place) :
    ∃ above, home.Made t t above ∧ place = above ++ [name.toList] := by
  obtain ⟨above, habove, hnode, hplace⟩ := (FileTree.locate_child_eq_ok_iff hname).mp hlocate
  have hmade := FileTree.makeDirectories_parent hlocate
  rw [FileTree.parent_child] at hmade
  exact ⟨above, ⟨hmade, habove, hnode⟩, hplace⟩

theorem Made.unique {made' : FileTree} {place' : List Text} (hmade : home.Made t made place)
    (hmade' : home.Made t made' place') : made' = made ∧ place' = place := by
  have htree := hmade'.made_eq
  rw [hmade.made_eq] at htree
  cases htree
  have hplace := hmade'.locate_eq
  rw [hmade.locate_eq] at hplace
  cases hplace
  exact ⟨rfl, rfl⟩

/-- A file that is put into the home directory leaves it in its place. -/
theorem Made.put (hmade : home.Made t made place) {name : Text}
    (hnode : made.node? (place ++ [name]) ≠ some .directory) (bytes : List UInt8) :
    home.Made (made.put (place ++ [name]) (.file bytes)) (made.put (place ++ [name]) (.file bytes))
      place := by
  have hlocate : (made.put (place ++ [name]) (.file bytes)).locate home.directory = .ok place :=
    FileTree.follow_put hnode _ hmade.locate_eq
  have hdirectory : (made.put (place ++ [name]) (.file bytes)).node? place = some .directory := by
    rw [FileTree.node?_put (by simp), if_neg (by simp), hmade.directory]
  exact ⟨FileTree.makeFrom_of_follow hlocate hdirectory, hlocate, hdirectory⟩

/-- What is not there is not found. -/
theorem Lacks.not_contains (hlacks : home.Lacks t name) (hname : name.toList ≠ ['.', '.']) :
    t.contains (home.directory.child name) = false := by
  obtain ⟨made, place, hmade, hnone⟩ := hlacks
  unfold FileTree.contains FileTree.lookup
  cases hlocate : t.locate (home.directory.child name) with
  | error e => rfl
  | ok found =>
    obtain ⟨above, hmade', rfl⟩ := made_of_locate hname hlocate
    obtain ⟨rfl, rfl⟩ := hmade.unique hmade'
    rw [FileTree.ok_bind, hnone]

/-- What is not there can be stored. -/
theorem Lacks.storable (hlacks : home.Lacks t name) (hname : name.toList ≠ ['.', '.']) :
    t.Storable (home.directory.child name) := by
  obtain ⟨made, place, hmade, hnone⟩ := hlacks
  intro bytes
  unfold FileTree.store FileTree.write
  rw [FileTree.parent_child, hmade.made_eq, FileTree.ok_bind, hmade.locate_child hname,
    FileTree.ok_bind, hnone]
  exact ⟨_, rfl⟩

theorem Lacks.vacant (hlacks : home.Lacks t name) (hname : name.toList ≠ ['.', '.']) :
    t.Vacant (home.directory.child name) := by
  obtain ⟨made, place, hmade, hnone⟩ := hlacks
  refine ⟨made, place ++ [name.toList], ?_, hmade.locate_child hname, hnone⟩
  rw [FileTree.parent_child, hmade.made_eq]

/-! ## The records -/

/-- Whether the file of the records holds some bytes; a file that is not there holds none. -/
def HoldsRecords (home : Home) (t : FileTree) (bytes : List UInt8) : Prop :=
  t.read home.records = .ok bytes ∨ bytes = [] ∧ home.Lacks t "records.jsonl"

theorem IsNew.holdsRecords (hnew : home.IsNew t) : home.HoldsRecords t [] :=
  .inr ⟨rfl, hnew.lacks _⟩

/-- A record that is handed over is added at the end. -/
theorem HoldsRecords.appendRecord (hholds : home.HoldsRecords t bytes) (collection : Text)
    (record : Record) :
    ∃ t', Sink.appendRecord t home.records collection record = .ok t' ∧
      home.HoldsRecords t' (bytes ++ Utf8.encode (record.line collection ++ ['\n'])) := by
  rcases hholds with hread | ⟨rfl, hlacks⟩
  · obtain ⟨t', hadd, hread'⟩ := Sink.appendRecord_of_read hread collection record
    exact ⟨t', hadd, .inl hread'⟩
  · obtain ⟨t', hadd, hread'⟩ := Sink.appendRecord_of_vacant (hlacks.vacant (by decide)) collection record
    exact ⟨t', hadd, .inl hread'⟩

/-- Making the home directory leaves the records as they are. -/
theorem HoldsRecords.makeDirectories (hholds : home.HoldsRecords t bytes)
    (hmade : t.makeDirectories home.directory = .ok made) : home.HoldsRecords made bytes := by
  rcases hholds with hread | ⟨rfl, made', place, hmade', hnone⟩
  · have hsame := FileTree.makeDirectories_of_read hread
    rw [show home.records.parent = home.directory from FileTree.parent_child _ _, hmade] at hsame
    cases hsame
    exact .inl hread
  · have htree := hmade'.made_eq
    rw [hmade] at htree
    cases htree
    refine .inr ⟨rfl, made, place, ⟨?_, hmade'.locate_eq, hmade'.directory⟩, hnone⟩
    exact FileTree.makeFrom_of_follow hmade'.locate_eq hmade'.directory

/-- Storing another file of the home directory leaves the records as they are. -/
theorem HoldsRecords.store {stored : List UInt8} (hholds : home.HoldsRecords t bytes)
    (hstore : t.store home.state stored = .ok t') : home.HoldsRecords t' bytes := by
  have hstate : "state.json".toList ≠ ['.', '.'] := by decide
  have hrecords : "records.jsonl".toList ≠ ['.', '.'] := by decide
  -- both files are in one directory, so that their last names tell them apart
  have hdiffers : ∀ place : List Text, place ++ ["records.jsonl".toList] ≠ place ++ ["state.json".toList] := by
    intro place heq
    exact absurd (List.append_cancel_left heq) (by decide)
  obtain ⟨made, place, hmade, hlocate, hnode, rfl⟩ := FileTree.exists_of_store hstore
  obtain ⟨above, hthere, rfl⟩ := made_of_locate hstate hlocate
  have hparent : t.makeDirectories home.directory = .ok made := by
    rwa [show home.state.parent = home.directory from FileTree.parent_child _ _] at hmade
  have hmade : home.Made t made above := ⟨hparent, hthere.locate_eq, hthere.directory⟩
  rcases hholds with hread | ⟨rfl, made', above', hmade', hnone⟩
  · left
    obtain ⟨found, hfound, -⟩ := FileTree.read_eq_ok_iff_locate.mp hread
    obtain ⟨above', hmade', rfl⟩ := made_of_locate hrecords hfound
    obtain ⟨rfl, rfl⟩ := hmade.unique hmade'
    refine FileTree.read_put_of_ne hread ?_ hnode _
    rw [hfound]
    exact fun heq => hdiffers above' (Except.ok.inj heq)
  · right
    obtain ⟨rfl, rfl⟩ := hmade.unique hmade'
    refine ⟨rfl, _, above', hmade.put hnode _, ?_⟩
    rw [FileTree.node?_put (by simp), if_neg (hdiffers above'), hnone]

end Home

/-! ## Deeds in a home directory -/

/-- The line that a record becomes. -/
def Delivery.written (x : Delivery) : Text :=
  x.record.line x.collection ++ ['\n']

/-- Whether a deed reaches no files but those of a home directory: records go to its file, and keep within
the limits, and the identity is kept in its state file. -/
def Deed.Within (home : Home) (l : Limits) : Deed → Prop
  | handed sink collection record => sink = .file home.records ∧ (record.filed collection).Within l
  | asked _ _ _ => True
  | stored i _ _ => i.path = home.state

theorem Deed.deliveries_singleton (d : Deed) : Deed.deliveries [d] = d.delivery?.toList := by
  unfold Deed.deliveries
  cases hd : d.delivery? <;> simp [hd]

theorem Deed.Within.holdsRecords (hwithin : d.Within home h.limits)
    (hholds : home.HoldsRecords h.files bytes) :
    home.HoldsRecords (d.apply h).files
      (bytes ++ Utf8.encode ((Deed.deliveries [d]).flatMap Delivery.written)) := by
  rw [Deed.deliveries_singleton]
  cases d with
  | handed sink collection record =>
    obtain ⟨rfl, hlimits⟩ := hwithin
    obtain ⟨t', hadd, hholds'⟩ := hholds.appendRecord collection record
    have hfiles : (Deed.apply h (.handed (.file home.records) collection record)).files = t' := by
      rw [Deed.apply, Sink.files_submitInBackground]
      dsimp only
      rw [hlimits, hadd]
    rw [hfiles]
    simpa [Deed.delivery?, Delivery.written] using hholds'
  | asked notifier message action =>
    obtain ⟨_, _, _, hoffer⟩ := notifier.host_offer message action h
    rw [Deed.apply, hoffer]
    simpa [Deed.delivery?, Utf8.encode] using hholds
  | stored i key value =>
    have hpath : i.path = home.state := hwithin
    have hparent : i.path.parent = home.directory := by
      rw [hpath]
      exact FileTree.parent_child _ _
    have hkept : home.HoldsRecords (Deed.apply h (.stored i key value)).files bytes := by
      rw [Deed.apply]
      rcases Identity.updated i key value h with hidle | ⟨h₁, fields, hidle, -, hstored⟩
      · exact hidle.files_eq ▸ hholds
      · have hholds₁ : home.HoldsRecords h₁.files bytes := hidle.files_eq ▸ hholds
        generalize (i.update key value).run h = result at hstored
        obtain ⟨r, h'⟩ := result
        cases hstored with
        | adrift => exact hholds₁
        | beyond hmade => exact hholds₁.makeDirectories (hparent ▸ hmade)
        | refused hmade => exact hholds₁.makeDirectories (hparent ▸ hmade)
        | written hwithin hstore => exact hholds₁.store (hpath ▸ hstore)
    simpa [Deed.delivery?, Utf8.encode] using hkept

/-- The file of the records grows by the lines of the records that are handed over. -/
theorem Does.holdsRecords (hdoes : Does ds h h') (hwithin : ∀ d ∈ ds, d.Within home h.limits)
    (hholds : home.HoldsRecords h.files bytes) :
    home.HoldsRecords h'.files
      (bytes ++ Utf8.encode ((Deed.deliveries ds).flatMap Delivery.written)) := by
  induction hdoes generalizing bytes with
  | idle hidle =>
    rw [hidle.files_eq]
    simpa [Deed.deliveries, Utf8.encode] using hholds
  | deed d h => exact (hwithin d List.mem_cons_self).holdsRecords hholds
  | append hdoes _ ih ih' =>
    have hfirst := ih (fun d hd => hwithin d (List.mem_append_left _ hd)) hholds
    have hsecond := ih' (fun d hd => hdoes.limits_eq ▸ hwithin d (List.mem_append_right _ hd)) hfirst
    simpa [Deed.deliveries, Utf8.encode, List.append_assoc] using hsecond

/-! ## Records within limits -/

theorem Datum.within_fieldsToJson {l : Limits} {pairs : List (Text × Datum)}
    (hpairs : ∀ p ∈ pairs, p.2.toJson.Within l) : ∀ f ∈ Datum.fieldsToJson pairs, f.2.Within l := by
  induction pairs with
  | nil => simp [Datum.fieldsToJson]
  | cons p rest ih =>
    obtain ⟨hp, hrest⟩ := List.forall_mem_cons.mp hpairs
    rw [Datum.fieldsToJson]
    exact List.forall_mem_cons.mpr ⟨hp, ih hrest⟩

/-- A record with its collection keeps within the limits if its values do, with one level less to go. -/
theorem Record.within_filed {l l' : Limits} {record : Record} (hinside : l.inside? = some l')
    (hrecord : ∀ p ∈ record, p.2.toJson.Within l') (collection : Text) :
    (record.filed collection).Within l := by
  have kept : ∀ (more fields : Record), (∀ p ∈ more, p.2.toJson.Within l') →
      (∀ p ∈ fields, p.2.toJson.Within l') →
      ∀ p ∈ more.foldl (fun fields f => Fields.set f.1 f.2 fields) fields, p.2.toJson.Within l' := by
    intro more
    induction more with
    | nil => exact fun fields _ hfields => hfields
    | cons p more ih =>
      intro fields hmore hfields
      obtain ⟨hp, hmore⟩ := List.forall_mem_cons.mp hmore
      refine ih _ hmore fun q hq => ?_
      rcases Fields.eq_or_mem_of_mem_set hq with rfl | hq
      · exact hp
      · exact hfields q hq
  refine Json.within_object_iff.mpr ⟨l', hinside, Datum.within_fieldsToJson ?_⟩
  exact kept record _ hrecord (List.forall_mem_singleton.mpr (Json.within_string l' _))

end Kudos
