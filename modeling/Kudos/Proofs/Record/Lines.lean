import Mathlib
import Kudos.Proofs.Files.Home
import Kudos.Proofs.Json.Printable
import Kudos.Proofs.Text.Lines
import Kudos.Proofs.Text.Utf16
import Kudos.Proofs.Text.Utf8

/-!
# Records as lines

A file to which records are added has one line for each, in their order. The line is JSON in printable
ASCII, whatever the texts of the record are, and gives back the record with its collection in front; points
in time come back as the texts that are sent for them (`Datum.spelled`). A record that goes beyond a limit of
the host is refused, and leaves the file as it is.
-/

namespace Kudos

variable {d : Datum} {pairs : List (Text × Datum)} {x : Delivery} {xs : List Delivery} {p : Path} {h : Host}
  {bytes : List UInt8}

/-! ## Values -/

namespace Datum

/-- A value without double precision numbers and paths, in which no key stands twice. -/
inductive Plain : Datum → Prop
  | null : Plain null
  | bool (b : Bool) : Plain (bool b)
  | whole (n : Int) : Plain (number (.whole n))
  | text (t : Text) : Plain (text t)
  | time (t : Timestamp) : Plain (time t)
  | list {items : List Datum} (h : ∀ v ∈ items, Plain v) : Plain (list items)
  | fields {pairs : List (Text × Datum)} (hkeys : (pairs.map (·.1)).Nodup) (h : ∀ f ∈ pairs, Plain f.2) :
      Plain (fields pairs)

mutual

/-- The value with the texts that are sent for points in time and paths. -/
def spelled : Datum → Datum
  | time t => text t.iso
  | path t => text t
  | list items => list (listSpelled items)
  | fields pairs => fields (fieldsSpelled pairs)
  | v => v

def listSpelled : List Datum → List Datum
  | [] => []
  | v :: rest => spelled v :: listSpelled rest

def fieldsSpelled : List (Text × Datum) → List (Text × Datum)
  | [] => []
  | (k, v) :: rest => (k, spelled v) :: fieldsSpelled rest

end

mutual

/-- The value that a JSON value stands for. -/
def ofJson : Json → Datum
  | .null => null
  | .bool b => bool b
  | .int n => number (.whole n)
  | .real x => number (.real x)
  | .string s => text (Utf16.decode s)
  | .array items => list (listOfJson items)
  | .object pairs => fields (fieldsOfJson pairs)

def listOfJson : List Json → List Datum
  | [] => []
  | v :: rest => ofJson v :: listOfJson rest

def fieldsOfJson : List (Units × Json) → List (Text × Datum)
  | [] => []
  | (k, v) :: rest => (Utf16.decode k, ofJson v) :: fieldsOfJson rest

end

theorem listToJson_eq_map (items : List Datum) : listToJson items = items.map toJson := by
  induction items with
  | nil => rfl
  | cons v rest ih => rw [listToJson, ih, List.map_cons]

theorem fieldsToJson_eq_map (pairs : List (Text × Datum)) :
    fieldsToJson pairs = pairs.map fun f => (Utf16.encode f.1, f.2.toJson) := by
  induction pairs with
  | nil => rfl
  | cons f rest ih => rw [fieldsToJson, ih, List.map_cons]

mutual

/-- What is sent for a value stands for the value as it is spelled. -/
theorem ofJson_toJson (d : Datum) : ofJson d.toJson = d.spelled := by
  match d with
  | null | bool b | number (.whole n) | number (.real y) => rfl
  | text t => exact congrArg text (Utf16.decode_encode t)
  | time t => exact congrArg text (Utf16.decode_encode t.iso)
  | path t => exact congrArg text (Utf16.decode_encode t)
  | list items => exact congrArg list (listOfJson_listToJson items)
  | fields pairs => exact congrArg fields (fieldsOfJson_fieldsToJson pairs)

theorem listOfJson_listToJson (items : List Datum) : listOfJson (listToJson items) = listSpelled items := by
  match items with
  | [] => rfl
  | v :: rest => rw [listToJson, listOfJson, ofJson_toJson v, listOfJson_listToJson rest, listSpelled]

theorem fieldsOfJson_fieldsToJson (pairs : List (Text × Datum)) :
    fieldsOfJson (fieldsToJson pairs) = fieldsSpelled pairs := by
  match pairs with
  | [] => rfl
  | (k, v) :: rest =>
    rw [fieldsToJson, fieldsOfJson, ofJson_toJson v, fieldsOfJson_fieldsToJson rest, Utf16.decode_encode,
      fieldsSpelled]

end

/-- What is sent for a plain value can be read, and comes back as it is. -/
theorem Plain.toJson (hd : d.Plain) : d.toJson.Proper ∧ d.toJson.Whole := by
  induction hd with
  | null => exact ⟨.null, .null⟩
  | bool b => exact ⟨.bool b, .bool b⟩
  | whole n => exact ⟨.int n, .int n⟩
  | text t => exact ⟨.string _, .string _⟩
  | time t => exact ⟨.string _, .string _⟩
  | @list items _ ih =>
    rw [Datum.toJson, listToJson_eq_map]
    have hitems : ∀ v ∈ items.map Datum.toJson, v.Proper ∧ v.Whole := by
      intro v hv
      obtain ⟨d, hd, rfl⟩ := List.mem_map.mp hv
      exact ih d hd
    exact ⟨.array fun v hv => (hitems v hv).1, .array fun v hv => (hitems v hv).2⟩
  | @fields pairs hkeys _ ih =>
    rw [Datum.toJson, fieldsToJson_eq_map]
    have hfields : ∀ f ∈ pairs.map fun f => (Utf16.encode f.1, f.2.toJson), f.2.Proper ∧ f.2.Whole := by
      intro f hf
      obtain ⟨g, hg, rfl⟩ := List.mem_map.mp hf
      exact ih g hg
    refine ⟨.object ?_ fun f hf => (hfields f hf).1, .object fun f hf => (hfields f hf).2⟩
    have hinjective : Function.Injective Utf16.encode := Function.LeftInverse.injective Utf16.decode_encode
    rw [List.map_map]
    show (pairs.map (Utf16.encode ∘ fun f => f.1)).Nodup
    rw [← List.map_map]
    exact hkeys.map hinjective

end Datum

/-! ## One line -/

/-- The line that a delivery becomes. -/
def Delivery.line (x : Delivery) : Text :=
  x.record.line x.collection

/-- The record of a delivery with its collection in front. -/
def Delivery.filed (x : Delivery) : Datum :=
  .fields (("collection".toList, .text x.collection) :: x.record)

/-- Whether a delivery has a plain record that names no collection itself. -/
def Delivery.Plain (x : Delivery) : Prop :=
  "collection".toList ∉ x.record.map (·.1) ∧ (Datum.fields x.record).Plain

theorem Delivery.Plain.filed (hx : x.Plain) : x.filed.Plain := by
  obtain ⟨hnew, hrecord⟩ := hx
  cases hrecord with
  | fields hkeys hvalues =>
    exact .fields (List.nodup_cons.mpr ⟨hnew, hkeys⟩) (List.forall_mem_cons.mpr ⟨.text _, hvalues⟩)

/-- Whether a delivery goes beyond no limit. -/
def Delivery.Within (l : Limits) (x : Delivery) : Prop :=
  (x.record.filed x.collection).Within l

instance (l : Limits) (x : Delivery) : Decidable (x.Within l) :=
  inferInstanceAs (Decidable ((x.record.filed x.collection).Within l))

/-- What is written is what is sent for the record with its collection. -/
theorem Delivery.Plain.filed_eq (hx : x.Plain) : x.record.filed x.collection = x.filed.toJson := by
  have hkeys : ((("collection".toList, Datum.text x.collection) :: x.record).map (·.1)).Nodup := by
    cases hx.filed with
    | fields hkeys => exact hkeys
  show Record.toJson (Fields.ofList (("collection".toList, .text x.collection) :: x.record)) = _
  rw [Fields.ofList_eq_self hkeys]
  rfl

/-- What one line is: printable, and JSON for the record with its collection, within the same limits. -/
theorem Delivery.Plain.line_spec {l : Limits} (hx : x.Plain) (hwithin : x.Within l) :
    x.line.Printable ∧ ∃ v, Json.read l x.line = .ok v ∧ Datum.ofJson v = x.filed.spelled := by
  obtain ⟨hproper, hwhole⟩ := hx.filed.toJson
  rw [Delivery.Within, hx.filed_eq] at hwithin
  have hline : x.line = x.filed.toJson.write .spaced := by
    rw [Delivery.line, Record.line, hx.filed_eq]
  rw [hline]
  refine ⟨hwhole.printable (by decide) 0, x.filed.toJson, ?_, Datum.ofJson_toJson x.filed⟩
  rw [Json.read_write hproper hwithin, hwhole.reread_eq]

/-! ## All lines -/

/-- Hands records to a sink one after the other, whether it takes them or not. -/
def Sink.submitEach (sink : Sink) : List Delivery → Host → List (Except Failure Unit) × Host
  | [], h => ([], h)
  | x :: xs, h =>
    let (r, h) := sink.submit x.collection x.record h
    let (rs, h) := sink.submitEach xs h
    (r :: rs, h)

/-- How handing over a record ends: it is refused only if it goes beyond a limit. -/
def Delivery.result (l : Limits) (x : Delivery) : Except Failure Unit :=
  match (x.record.filed x.collection).overrun? l with
  | some limit => .error (.beyond limit)
  | none => .ok ()

/-- What a file comes to hold: a line for each record that goes beyond no limit. -/
def written (l : Limits) (xs : List Delivery) : List UInt8 :=
  Utf8.encode ((xs.filter (·.Within l)).flatMap Delivery.written)

/-- A record that goes beyond a limit is refused, and nothing is done. -/
theorem submit_of_beyond (hbeyond : ¬ x.Within h.limits) (p : Path) :
    (Sink.file p).submit x.collection x.record h = (x.result h.limits, h) := by
  obtain ⟨limit, hlimit⟩ := Option.ne_none_iff_exists'.mp hbeyond
  unfold Sink.submit Delivery.result
  dsimp only
  rw [hlimit]

/-- Other records are added to the file. -/
theorem submit_of_within {t : FileTree} (hwithin : x.Within h.limits)
    (hadd : Sink.appendRecord h.files p x.collection x.record = .ok t) :
    (Sink.file p).submit x.collection x.record h = (x.result h.limits, { h with files := t }) := by
  have hlimit : (x.record.filed x.collection).overrun? h.limits = none := hwithin
  unfold Sink.submit Delivery.result
  dsimp only
  rw [hlimit, hadd]

theorem submitEach_of_read (hread : h.files.read p = .ok bytes) (xs : List Delivery) :
    ∃ h', (Sink.file p).submitEach xs h = (xs.map (·.result h.limits), h') ∧
      h'.files.read p = .ok (bytes ++ written h.limits xs) := by
  induction xs generalizing h bytes with
  | nil => exact ⟨h, rfl, by simpa [written, Utf8.encode] using hread⟩
  | cons x xs ih =>
    unfold Sink.submitEach
    by_cases hwithin : x.Within h.limits
    · obtain ⟨t', hadd, hread'⟩ := Sink.appendRecord_of_read hread x.collection x.record
      obtain ⟨h', hrest, hfile⟩ := ih (h := { h with files := t' }) hread'
      have hlimits : Host.limits { h with files := t' } = h.limits := rfl
      rw [hlimits] at hrest hfile
      refine ⟨h', ?_, ?_⟩
      · rw [submit_of_within hwithin hadd]
        dsimp only
        rw [hrest]
        rfl
      · rw [hfile]
        simp [written, hwithin, Delivery.written, Utf8.encode]
    · obtain ⟨h', hrest, hfile⟩ := ih hread
      refine ⟨h', ?_, ?_⟩
      · rw [submit_of_beyond hwithin]
        dsimp only
        rw [hrest]
        rfl
      · rw [hfile]
        simp [written, hwithin]

/-- Where nothing is, the file holds the lines of all records that are not refused, if there are any. -/
theorem submitEach_of_vacant (hvacant : h.files.Vacant p) (xs : List Delivery) :
    ∃ h', (Sink.file p).submitEach xs h = (xs.map (·.result h.limits), h') ∧
      if xs.filter (·.Within h.limits) = [] then h' = h
      else h'.files.read p = .ok (written h.limits xs) := by
  induction xs with
  | nil => exact ⟨h, rfl, rfl⟩
  | cons x xs ih =>
    unfold Sink.submitEach
    by_cases hwithin : x.Within h.limits
    · obtain ⟨t', hadd, hread⟩ := Sink.appendRecord_of_vacant hvacant x.collection x.record
      obtain ⟨h', hrest, hfile⟩ := submitEach_of_read (h := { h with files := t' }) hread xs
      have hlimits : Host.limits { h with files := t' } = h.limits := rfl
      rw [hlimits] at hrest hfile
      refine ⟨h', ?_, ?_⟩
      · rw [submit_of_within hwithin hadd]
        dsimp only
        rw [hrest]
        rfl
      · rw [if_neg (by simp [hwithin]), hfile]
        simp [written, hwithin, Delivery.written, Utf8.encode]
    · obtain ⟨h', hrest, hfile⟩ := ih
      refine ⟨h', ?_, ?_⟩
      · rw [submit_of_beyond hwithin]
        dsimp only
        rw [hrest]
        rfl
      · simpa [written, hwithin] using hfile

/-- Where nothing is, records that are handed over make a file with one line for each, in their order; only a
record that goes beyond a limit is refused, and leaves no trace. All of the file is ASCII, and it is cut into
these lines by newlines alone and by all that breaks lines. Each line is JSON that stands for the record with
its collection in front. -/
theorem lines_of_submitEach (p : Path) (h : Host) (xs : List Delivery) (hvacant : h.files.Vacant p)
    (hxs : ∀ x ∈ xs, x.Plain) :
    ∃ h' lines, (Sink.file p).submitEach xs h = (xs.map (·.result h.limits), h') ∧
      (if lines = [] then h' = h else h'.files.read p = .ok (Utf8.encode (lines.flatMap (· ++ ['\n'])))) ∧
      (∀ c ∈ lines.flatMap (· ++ ['\n']), c.toNat < 0x80) ∧
      Text.splitOn '\n' (lines.flatMap (· ++ ['\n'])) = lines ++ [[]] ∧
      Text.splitLines (lines.flatMap (· ++ ['\n'])) = lines.map (· ++ ['\n']) ∧
      List.Forall₂ (fun line x => ∃ v, Json.read h.limits line = .ok v ∧ Datum.ofJson v = x.filed.spelled)
        lines (xs.filter (·.Within h.limits)) := by
  set kept := xs.filter (·.Within h.limits) with hkept
  have hall : ∀ x ∈ kept, x.Plain ∧ x.Within h.limits := by
    intro x hx
    obtain ⟨hmem, hwithin⟩ := List.mem_filter.mp hx
    exact ⟨hxs x hmem, of_decide_eq_true hwithin⟩
  have htext : (kept.map Delivery.line).flatMap (· ++ ['\n']) = kept.flatMap Delivery.written := by
    rw [List.flatMap_map]
    rfl
  have hprintable : ∀ line ∈ kept.map Delivery.line, line.Printable := by
    intro line hline
    obtain ⟨x, hx, rfl⟩ := List.mem_map.mp hline
    exact ((hall x hx).1.line_spec (hall x hx).2).1
  have hbreaks : ∀ line ∈ kept.map Delivery.line, ∀ c ∈ line, ¬ Text.isLineBreak c :=
    fun line hline c hc => (hprintable line hline).not_isLineBreak hc
  have hread : List.Forall₂
      (fun line x => ∃ v, Json.read h.limits line = .ok v ∧ Datum.ofJson v = x.filed.spelled)
      (kept.map Delivery.line) kept :=
    List.forall₂_map_left_iff.mpr
      (List.forall₂_same.mpr fun x hx => ((hall x hx).1.line_spec (hall x hx).2).2)
  have hcut := Text.splitOn_lines fun line hline hmem => hbreaks line hline _ hmem rfl
  have hascii := Text.toNat_lt_of_mem_lines hprintable
  obtain ⟨h', hrun, hfile⟩ := submitEach_of_vacant hvacant xs
  refine ⟨h', _, hrun, ?_, hascii, hcut, Text.splitLines_lines hbreaks, hread⟩
  rw [htext]
  simpa [← hkept, written] using hfile

/-- A text with line breaks of two kinds is found again in the one line of its record. -/
theorem line_read_from_file :
    let x : Delivery := ⟨"users".toList, [("note".toList, .text ['a', '\n', '\u2028', '🎉'])]⟩
    ∃ h' line v, (Sink.file ⟨[], ["records.jsonl".toList]⟩).submitEach [x] {} = ([.ok ()], h') ∧
      h'.files.read ⟨[], ["records.jsonl".toList]⟩ = .ok (Utf8.encode (line ++ ['\n'])) ∧
      Json.read (Host.limits {}) line = .ok v ∧ Datum.ofJson v = .fields
        [("collection".toList, .text "users".toList), ("note".toList, .text ['a', '\n', '\u2028', '🎉'])] := by
  intro x
  have hvacant : ({} : Host).files.Vacant ⟨[], ["records.jsonl".toList]⟩ := ⟨_, _, rfl, rfl, rfl⟩
  have hplain : x.Plain := ⟨by decide, .fields (by simp [x]) fun f hf => by
    rw [List.mem_singleton.mp hf]
    exact .text _⟩
  have hlimit : (x.record.filed x.collection).overrun? (Host.limits {}) = none := by
    rw [hplain.filed_eq]
    rfl
  obtain ⟨h', lines, hrun, hfile, -, -, -, hread⟩ := lines_of_submitEach ⟨[], ["records.jsonl".toList]⟩ {} [x]
    hvacant (List.forall_mem_singleton.mpr hplain)
  have hkept : [x].filter (·.Within (Host.limits {})) = [x] :=
    List.filter_eq_self.mpr (List.forall_mem_singleton.mpr (decide_eq_true hlimit))
  rw [hkept] at hread
  obtain ⟨line, rfl⟩ : ∃ line, lines = [line] := List.length_eq_one_iff.mp hread.length_eq
  obtain ⟨⟨v, hv, hvalue⟩, -⟩ := List.forall₂_cons.mp hread
  refine ⟨h', line, v, ?_, ?_, hv, hvalue⟩
  · rw [hrun, List.map_singleton, Delivery.result, hlimit]
  · rw [if_neg (List.cons_ne_nil line [])] at hfile
    simpa using hfile

/-- Not every record becomes a line: one with a very long integer is refused, and so is every one if there is
a file where the directory should be. -/
theorem records_without_lines :
    let p : Path := ⟨[], ["home".toList, "records.jsonl".toList]⟩
    let x : Delivery := ⟨"users".toList, [("n".toList, .number (.whole (10 ^ Number.mostDigits)))]⟩
    let y : Delivery := ⟨"users".toList, [("a".toList, .number (.whole 1))]⟩
    let h : Host := { files := { entries := [(["home".toList], .file [0x78])] } }
    x.Plain ∧ ({} : Host).files.contains p = false ∧
      (Sink.file p).submitEach [x] {} = ([.error (.beyond (.digits none))], {}) ∧
      y.Plain ∧ h.files.contains p = false ∧ (Sink.file p).submitEach [y] h = ([.error (.file .exists)], h) := by
  intro p x y h
  have plain : ∀ (key : Text) (n : Int), key ≠ "collection".toList →
      Delivery.Plain ⟨"users".toList, [(key, .number (.whole n))]⟩ := by
    intro key n hkey
    refine ⟨by simpa using hkey.symm, .fields (by simp) fun f hf => ?_⟩
    rw [List.mem_singleton.mp hf]
    exact .whole n
  have beyond : ∀ (n : Int) (h : Host), Number.mostDigits < Number.digitCount n →
      (Record.filed "users".toList [("n".toList, .number (.whole n))]).overrun? h.limits =
        some (.digits none) := by
    intro n h hlong
    rw [(plain "n".toList n (by decide)).filed_eq]
    show Option.or none (Option.or (if Limits.excludes ⟨some Number.mostDigits, some h.room⟩
      (Number.digitCount n) then some (Overrun.digits none) else none) none) = _
    have hexcludes : Limits.excludes ⟨some Number.mostDigits, some h.room⟩ (Number.digitCount n) = true :=
      decide_eq_true hlong
    rw [if_pos hexcludes]
    rfl
  refine ⟨plain _ _ (by decide), rfl, ?_, plain _ _ (by decide), rfl, rfl⟩
  unfold Sink.submitEach Sink.submit
  dsimp only
  rw [beyond _ _ (Number.lt_digitCount_pow (by decide))]
  rfl

end Kudos
