import Mathlib
import Kudos.Proofs.Json.Limits
import Kudos.Proofs.Json.Real
import Kudos.Proofs.Json.Units

/-!
# Writing and reading JSON

What is written in any style is read as the same value within the limits that the value keeps
(`read_write`), apart from double precision numbers, which are read as `Binary64.reread` says. This holds
of the values that are ever read (`sound_of_read`): in them no object has a key twice, each number is one
of the format, and they keep within the limits under which they were read.
-/

namespace Kudos

/-- The number that is read where a number was written. -/
def Binary64.reread (x : Binary64) : Binary64 :=
  match Json.atom {} (Json.writeReal x) with
  | .ok (.real y, _) => y
  | _ => x

namespace Json

variable {v : Json} {vs items : List Json} {fields : List (Units × Json)} {key : Units}
variable {l l' : Limits} {style : Style} {depth fuel : Nat} {s t t' rest : Text} {c : Char}

mutual

/-- The value that is read where a value was written. -/
def reread : Json → Json
  | real x => real x.reread
  | array items => array (listReread items)
  | object fields => object (fieldsReread fields)
  | v => v

def listReread : List Json → List Json
  | [] => []
  | v :: rest => reread v :: listReread rest

def fieldsReread : List (Units × Json) → List (Units × Json)
  | [] => []
  | (k, v) :: rest => (k, reread v) :: fieldsReread rest

end

theorem listReread_eq_map (items : List Json) : listReread items = items.map reread := by
  induction items with
  | nil => rfl
  | cons v rest ih => rw [listReread, ih, List.map_cons]

theorem fieldsReread_eq_map (fields : List (Units × Json)) :
    fieldsReread fields = fields.map fun f => (f.1, f.2.reread) := by
  induction fields with
  | nil => rfl
  | cons f rest ih => rw [fieldsReread, ih, List.map_cons]

@[simp] theorem map_fst_fieldsReread (fields : List (Units × Json)) :
    (fieldsReread fields).map (·.1) = fields.map (·.1) := by
  rw [fieldsReread_eq_map, List.map_map]
  rfl

mutual

theorem overrun?_reread (l : Limits) (v : Json) : overrun? l v.reread = overrun? l v := by
  match v with
  | null | bool b | int n | real x | string s => rfl
  | array items =>
    rw [reread, overrun?, overrun?]
    cases l.inside? with
    | none => rfl
    | some l' => exact listOverrun?_reread l' items
  | object fields =>
    rw [reread, overrun?, overrun?]
    cases l.inside? with
    | none => rfl
    | some l' => exact fieldsOverrun?_reread l' fields

theorem listOverrun?_reread (l : Limits) (items : List Json) :
    listOverrun? l (listReread items) = listOverrun? l items := by
  match items with
  | [] => rfl
  | v :: rest => rw [listReread, listOverrun?, listOverrun?, overrun?_reread l v, listOverrun?_reread l rest]

theorem fieldsOverrun?_reread (l : Limits) (fields : List (Units × Json)) :
    fieldsOverrun? l (fieldsReread fields) = fieldsOverrun? l fields := by
  match fields with
  | [] => rfl
  | (k, v) :: rest =>
    rw [fieldsReread, fieldsOverrun?, fieldsOverrun?, overrun?_reread l v, fieldsOverrun?_reread l rest]

end

/-- A value keeps within the same limits when it is read again. -/
theorem Within.reread (h : v.Within l) : v.reread.Within l :=
  (overrun?_reread l v).trans h

/-- A value that can be read: no object has a key twice, and each number is one of the format. -/
inductive Proper : Json → Prop
  | null : Proper null
  | bool (b : Bool) : Proper (bool b)
  | int (n : Int) : Proper (int n)
  | real {x : Binary64} (h : x.InFormat) : Proper (real x)
  | string (s : Units) : Proper (string s)
  | array {items : List Json} (h : ∀ v ∈ items, Proper v) : Proper (array items)
  | object {fields : List (Units × Json)} (hkeys : (fields.map (·.1)).Nodup)
      (h : ∀ f ∈ fields, Proper f.2) : Proper (object fields)

/-- A value without double precision numbers. -/
inductive Whole : Json → Prop
  | null : Whole null
  | bool (b : Bool) : Whole (bool b)
  | int (n : Int) : Whole (int n)
  | string (s : Units) : Whole (string s)
  | array {items : List Json} (h : ∀ v ∈ items, Whole v) : Whole (array items)
  | object {fields : List (Units × Json)} (h : ∀ f ∈ fields, Whole f.2) : Whole (object fields)

theorem Whole.reread_eq (h : Whole v) : v.reread = v := by
  induction h with
  | array _ ih =>
    rw [reread, listReread_eq_map, List.map_congr_left ih, List.map_id']
  | object _ ih =>
    have hsame : ∀ f ∈ _, (fun f : Units × Json => (f.1, f.2.reread)) f = f :=
      fun f hf => Prod.ext rfl (ih f hf)
    rw [reread, fieldsReread_eq_map, List.map_congr_left hsame, List.map_id']
  | _ => rfl

/-! ## Blanks -/

/-- A text of blanks only. -/
def Blank (s : Text) : Prop :=
  ∀ c ∈ s, isSpace c

/-- A text that starts with no blank. -/
def Opens (t : Text) : Prop :=
  ∃ c ∈ t.head?, ¬ isSpace c

theorem skipSpace_append (hs : Blank s) (ht : Opens t) : skipSpace (s ++ t) = t := by
  obtain ⟨c, hc, hspace⟩ := ht
  obtain ⟨tail, rfl⟩ : ∃ tail, t = c :: tail := List.head?_eq_some_iff.mp hc
  rw [skipSpace, List.dropWhile_append_of_pos hs, List.dropWhile_cons_of_neg hspace]

theorem Opens.append (h : Opens t) (rest : Text) : Opens (t ++ rest) := by
  obtain ⟨c, hc, hspace⟩ := h
  exact ⟨c, List.mem_head?_append_of_mem_head? hc, hspace⟩

theorem Opens.of_cons (h : ¬ isSpace c) : Opens (c :: t) :=
  ⟨c, rfl, h⟩

theorem skipSpace_eq_self (h : Opens t) : skipSpace t = t :=
  skipSpace_append (s := []) (by simp [Blank]) h

theorem blank_newline (depth : Nat) : Blank (Style.newline depth) := by
  intro c hc
  rcases List.mem_cons.mp hc with rfl | hc
  · rfl
  · rw [List.eq_of_mem_replicate hc]
    rfl

theorem blank_edge (style : Style) (depth : Nat) : Blank (style.edge depth) := by
  cases style with
  | indented => exact blank_newline depth
  | _ => exact fun c hc => absurd hc List.not_mem_nil

theorem exists_comma (style : Style) (depth : Nat) : ∃ s, Blank s ∧ style.comma depth = ',' :: s := by
  cases style with
  | spaced => exact ⟨[' '], by simp [Blank, isSpace], rfl⟩
  | compact => exact ⟨[], by simp [Blank], rfl⟩
  | indented => exact ⟨_, blank_newline depth, rfl⟩

theorem exists_colon (style : Style) : ∃ s, Blank s ∧ style.colon = ':' :: s := by
  cases style with
  | compact => exact ⟨[], by simp [Blank], rfl⟩
  | _ => exact ⟨[' '], by simp [Blank, isSpace], rfl⟩

/-- What follows a value closes it: blanks, and behind them a comma or a bracket. -/
theorem Closes.of_blank (hs : Blank s) (hc : c = ',' ∨ c = ']' ∨ c = '\x7d') :
    Closes (s ++ c :: rest) := by
  intro d hd
  cases s with
  | nil =>
    obtain rfl : c = d := Option.some.inj hd
    exact .inr hc
  | cons b s =>
    obtain rfl : b = d := Option.some.inj hd
    exact .inl (hs b List.mem_cons_self)

theorem closes_nil : Closes [] := by
  intro c hc
  simp at hc

/-! ## Words and numbers -/

/-- The integer as a numeral. -/
theorem exists_numeral_ofInt (n : Int) :
    ∃ k : Numeral, k.text = Text.ofInt n ∧ k.value = int n ∧ k.whole = Text.ofNat n.natAbs := by
  have hwhole : (Text.ofNat n.natAbs).head? ≠ some '0' ∨ Text.ofNat n.natAbs = ['0'] := by
    by_cases hzero : n.natAbs = 0
    · rw [hzero]
      exact .inr rfl
    · exact .inl (Text.head?_ofNat hzero)
  refine ⟨{ negative := decide (n < 0), whole := Text.ofNat n.natAbs
            isDigit_whole := fun c hc => Text.isDigit_of_mem_ofNat hc
            isDigit_part := by simp, whole_ne_nil := Text.ofNat_ne_nil _
            head?_whole := hwhole }, ?_, ?_, rfl⟩
  · cases n with
    | ofNat n => simp [Numeral.text, Numeral.partText, Numeral.exponentText, Text.ofInt]
    | negSucc n => simp [Numeral.text, Numeral.partText, Numeral.exponentText, Text.ofInt]
  · simp only [Numeral.value, Numeral.exponentValue, Option.map_none, decimal_ofNat]
    congr 1
    split
    · next hneg => have := of_decide_eq_true hneg; omega
    · next hneg => have := mt decide_eq_true hneg; omega

/-- What stands first in a numeral. -/
theorem Numeral.exists_cons (n : Numeral) :
    ∃ c tail, n.text = c :: tail ∧ (c = '-' ∨ c.isDigit) := by
  obtain ⟨d, ds, hds⟩ := List.exists_cons_of_ne_nil n.whole_ne_nil
  have hd : d.isDigit := n.isDigit_whole d (by simp [hds])
  unfold Numeral.text
  cases n.negative with
  | true => exact ⟨'-', _, rfl, .inl rfl⟩
  | false => exact ⟨d, _, by rw [hds]; rfl, .inr hd⟩

/-- What is written for a value that is neither a string nor a collection: it starts like no other
value, and is read as a word or a number. -/
structure Atom (t : Text) (v : Json) : Prop where
  opens : ∃ c tail, t = c :: tail ∧ ¬ isSpace c ∧ c ∉ ['"', '[', '\x7b', ']', '\x7d']
  reads : ∀ l rest, v.Within l → Closes rest → atom l (t ++ rest) = .ok (v, rest)

theorem Numeral.atom (n : Numeral) (hfits : ∀ l, n.value.Within l → n.Fits l) :
    Atom n.text n.value where
  opens := by
    obtain ⟨c, tail, htext, hc⟩ := n.exists_cons
    refine ⟨c, tail, htext, ?_, ?_⟩
    · rcases hc with rfl | hc
      · decide
      · intro hspace
        simp only [isSpace, Bool.or_eq_true, decide_eq_true_eq] at hspace
        rcases hspace with ((rfl | rfl) | rfl) | rfl <;> exact absurd hc (by decide)
    · rcases hc with rfl | hc
      · decide
      · intro hmem
        simp only [List.mem_cons, List.not_mem_nil, or_false] at hmem
        rcases hmem with rfl | rfl | rfl | rfl | rfl <;> exact absurd hc (by decide)
  reads := fun l _ hwithin hrest => n.atom_append (hfits l hwithin) hrest

theorem atom_null : Atom "null".toList null :=
  ⟨⟨'n', _, rfl, by decide, by decide⟩, fun _ _ _ _ => rfl⟩

theorem atom_bool (b : Bool) : Atom (if b then "true".toList else "false".toList) (bool b) := by
  cases b with
  | true => exact ⟨⟨'t', _, rfl, by decide, by decide⟩, fun _ _ _ _ => rfl⟩
  | false => exact ⟨⟨'f', _, rfl, by decide, by decide⟩, fun _ _ _ _ => rfl⟩

theorem atom_int (n : Int) : Atom (Text.ofInt n) (int n) := by
  obtain ⟨k, htext, hvalue, hwhole⟩ := exists_numeral_ofInt n
  rw [← htext, ← hvalue]
  refine k.atom fun l hwithin _ _ => ?_
  rw [hvalue, within_int_iff] at hwithin
  rwa [hwhole]

theorem atom_real {x : Binary64} (h : x.InFormat) : Atom (writeReal x) (real x.reread) := by
  have hatom : ∃ y, Atom (writeReal x) (real y) := by
    match x, h with
    | .nan, _ => exact ⟨.nan, ⟨'N', _, rfl, by decide, by decide⟩, fun _ _ _ _ => rfl⟩
    | .infinity false, _ =>
      exact ⟨.infinity false, ⟨'I', _, rfl, by decide, by decide⟩, fun _ _ _ _ => rfl⟩
    | .infinity true, _ =>
      exact ⟨.infinity true, ⟨'-', _, rfl, by decide, by decide⟩, fun _ _ _ _ => rfl⟩
    | .finite negative m e, h =>
      obtain ⟨n, htext, hreal⟩ := Binary64.exists_numeral_shortest (m := m) negative h
      obtain ⟨y, hvalue⟩ := Binary64.exists_value_eq n hreal
      have hatom := n.atom fun l _ hpart hexponent => by simp [hpart, hexponent] at hreal
      rw [htext, hvalue] at hatom
      exact ⟨y, hatom⟩
  obtain ⟨y, hatom⟩ := hatom
  have hreads := hatom.reads {} [] rfl closes_nil
  rw [List.append_nil] at hreads
  have hreread : x.reread = y := by
    unfold Binary64.reread
    rw [hreads]
  rwa [hreread]

/-! ## Steps of the reader -/

theorem Atom.readValue_append (h : Atom t v) (hwithin : v.Within l) (hrest : Closes rest) :
    readValue l (fuel + 1) (t ++ rest) = .ok (v, rest) := by
  obtain ⟨c, tail, rfl, -, hc⟩ := h.opens
  simp only [List.mem_cons, List.not_mem_nil, or_false, not_or] at hc
  obtain ⟨hquote, hbracket, hbrace, -⟩ := hc
  rw [← h.reads l rest hwithin hrest, List.cons_append, readValue]
  · exact fun _ heq => hquote (List.cons.inj heq).1
  · exact fun _ heq => hbracket (List.cons.inj heq).1
  · exact fun _ heq => hbrace (List.cons.inj heq).1

theorem readValue_array (hinside : l.inside? = some l') (hne : t'.head? ≠ some ']') (ht : skipSpace t = t')
    (h : readItems l' fuel t' = .ok (items, rest)) :
    readValue l (fuel + 1) ('[' :: t) = .ok (array items, rest) := by
  rw [readValue, hinside, ht]
  dsimp only
  split
  · simp at hne
  · rw [h]
    rfl

theorem readValue_object (hinside : l.inside? = some l') (hne : t'.head? ≠ some '\x7d')
    (ht : skipSpace t = t') (h : readFields l' fuel t' = .ok (fields, rest)) :
    readValue l (fuel + 1) ('\x7b' :: t) = .ok (object (Fields.ofList fields), rest) := by
  rw [readValue, hinside, ht]
  dsimp only
  split
  · simp at hne
  · rw [h]
    rfl

theorem readItems_last (hv : readValue l fuel t = .ok (v, t')) (ht : skipSpace t' = ']' :: rest) :
    readItems l (fuel + 1) t = .ok ([v], rest) := by
  simp [readItems, hv, ht, bind, Except.bind, pure, Except.pure]

theorem readItems_cons (hv : readValue l fuel t = .ok (v, t')) (ht : skipSpace t' = ',' :: s)
    (h : readItems l fuel (skipSpace s) = .ok (vs, rest)) :
    readItems l (fuel + 1) t = .ok (v :: vs, rest) := by
  simp [readItems, hv, ht, h, bind, Except.bind, pure, Except.pure]

/-- A field at the start of a text: its key, its value, and what stands behind it. -/
structure ReadsField (l : Limits) (fuel : Nat) (t : Text) (key : Units) (v : Json) (rest : Text) : Prop where
  reads : ∃ t₁ t₂ t₃, t = '"' :: t₁ ∧ readUnits t₁ = some (key, t₂) ∧ skipSpace t₂ = ':' :: t₃ ∧
    readValue l fuel (skipSpace t₃) = .ok (v, rest)

theorem readFields_last (hf : ReadsField l fuel t key v t') (ht : skipSpace t' = '\x7d' :: rest) :
    readFields l (fuel + 1) t = .ok ([(key, v)], rest) := by
  obtain ⟨t₁, t₂, t₃, rfl, hkey, hcolon, hv⟩ := hf
  simp [readFields, hkey, hcolon, hv, ht, bind, Except.bind, pure, Except.pure]

theorem readFields_cons (hf : ReadsField l fuel t key v t') (ht : skipSpace t' = ',' :: s)
    (h : readFields l fuel (skipSpace s) = .ok (fields, rest)) :
    readFields l (fuel + 1) t = .ok ((key, v) :: fields, rest) := by
  obtain ⟨t₁, t₂, t₃, rfl, hkey, hcolon, hv⟩ := hf
  simp [readFields, hkey, hcolon, hv, ht, h, bind, Except.bind, pure, Except.pure]

/-! ## Writing and reading -/

/-- What is written for a value starts with no blank and closes no collection. -/
theorem exists_writeAt (h : v.Proper) (style : Style) (depth : Nat) :
    ∃ c tail, writeAt style depth v = c :: tail ∧ ¬ isSpace c ∧ c ≠ ']' := by
  have ofAtom : ∀ {t : Text} {v : Json}, Atom t v → ∃ c tail, t = c :: tail ∧ ¬ isSpace c ∧ c ≠ ']' := by
    intro t v hatom
    obtain ⟨c, tail, ht, hspace, hc⟩ := hatom.opens
    exact ⟨c, tail, ht, hspace, fun heq => hc (by simp [heq])⟩
  cases h with
  | null => exact ofAtom atom_null
  | bool b => exact ofAtom (atom_bool b)
  | int n => exact ofAtom (atom_int n)
  | real h => exact ofAtom (atom_real h)
  | string s => exact ⟨'"', _, rfl, by decide, by decide⟩
  | @array items h => cases items <;> exact ⟨'[', _, rfl, by decide, by decide⟩
  | @object fields hkeys h => cases fields <;> exact ⟨'\x7b', _, rfl, by decide, by decide⟩

/-- The value is read where it is written, as long as the limits and the bound on the steps allow it. -/
def ReadsBack (v : Json) : Prop :=
  ∀ (l : Limits) (style : Style) (depth fuel : Nat) (rest : Text), v.Within l →
    (writeAt style depth v).length ≤ fuel → Closes rest →
      readValue l fuel (writeAt style depth v ++ rest) = .ok (v.reread, rest)

theorem readsBack_of_atom (hne : v.Proper) (h : ∀ style depth, Atom (writeAt style depth v) v.reread) :
    ReadsBack v := by
  intro l style depth fuel rest hwithin hfuel hrest
  obtain ⟨c, tail, hc, -⟩ := exists_writeAt hne style depth
  obtain ⟨fuel, rfl⟩ : ∃ k, fuel = k + 1 := by
    rw [hc, List.length_cons] at hfuel
    exact ⟨fuel - 1, by omega⟩
  exact (h style depth).readValue_append hwithin.reread hrest

theorem exists_writeItems (h : ∀ v ∈ items, v.Proper) (hne : items ≠ []) (style : Style)
    (depth : Nat) :
    ∃ c tail, writeItems style depth items = c :: tail ∧ ¬ isSpace c ∧ c ≠ ']' := by
  obtain ⟨v, rest, rfl⟩ := List.exists_cons_of_ne_nil hne
  obtain ⟨c, tail, hc, hspace⟩ := exists_writeAt (h v List.mem_cons_self) style depth
  cases rest with
  | nil => exact ⟨c, tail, by rw [writeItems, hc], hspace⟩
  | cons w rest =>
    refine ⟨c, tail ++ style.comma depth ++ writeItems style depth (w :: rest), ?_, hspace⟩
    rw [writeItems, hc]
    · rfl
    · simp

theorem exists_writeFields (hne : fields ≠ []) (style : Style) (depth : Nat) :
    ∃ tail, writeFields style depth fields = '"' :: tail := by
  obtain ⟨f, rest, rfl⟩ := List.exists_cons_of_ne_nil hne
  cases rest <;> exact ⟨_, rfl⟩

theorem readItems_writeItems (hproper : ∀ v ∈ items, v.Proper) (h : ∀ v ∈ items, ReadsBack v)
    (hwithin : ∀ v ∈ items, v.Within l) (hne : items ≠ [])
    (hfuel : (writeItems style depth items).length + 1 ≤ fuel) (hs : Blank s) :
    readItems l fuel (writeItems style depth items ++ (s ++ ']' :: rest)) =
      .ok (listReread items, rest) := by
  induction items generalizing fuel with
  | nil => exact absurd rfl hne
  | cons v items ih =>
    have hv : ReadsBack v := h v List.mem_cons_self
    obtain ⟨hvwithin, hwithin⟩ := List.forall_mem_cons.mp hwithin
    obtain ⟨fuel, rfl⟩ : ∃ k, fuel = k + 1 := ⟨fuel - 1, by omega⟩
    cases items with
    | nil =>
      rw [writeItems] at hfuel ⊢
      exact readItems_last (hv l style depth fuel _ hvwithin (by omega) (.of_blank hs (by simp)))
        (skipSpace_append hs (.of_cons (by decide)))
    | cons w items =>
      obtain ⟨c, hc, hcomma⟩ := exists_comma style depth
      rw [writeItems, hcomma] at hfuel ⊢
      · have hproper' : ∀ v ∈ w :: items, v.Proper := fun v hv => hproper v (List.mem_cons_of_mem _ hv)
        have hlength : (writeItems style depth (w :: items)).length + 1 ≤ fuel := by
          simp only [List.length_append, List.length_cons] at hfuel
          omega
        have hrest := ih hproper' (fun v hv => h v (List.mem_cons_of_mem _ hv)) hwithin
          (List.cons_ne_nil _ _) hlength
        have hopens : Opens (writeItems style depth (w :: items)) := by
          obtain ⟨d, tail, hd, hspace, -⟩ :=
            exists_writeItems hproper' (List.cons_ne_nil _ _) style depth
          exact hd ▸ .of_cons hspace
        simp only [List.append_assoc, List.cons_append]
        refine readItems_cons (s := c ++ (writeItems style depth (w :: items) ++ (s ++ ']' :: rest)))
          (hv l style depth fuel _ hvwithin ?_ (.of_blank (s := []) (by simp [Blank]) (.inl rfl)))
          (skipSpace_eq_self (.of_cons (by decide))) ?_
        · simp only [List.length_append] at hfuel
          omega
        · rwa [skipSpace_append hc (hopens.append _)]
      · simp
      · simp

theorem readsField_writeAt (h : v.Proper) (hv : ReadsBack v) (hwithin : v.Within l)
    (hfuel : (writeAt style depth v).length ≤ fuel) (hrest : Closes rest) :
    ReadsField l fuel (writeString key ++ (style.colon ++ (writeAt style depth v ++ rest))) key v.reread
      rest := by
  obtain ⟨s, hs, hcolon⟩ := exists_colon style
  have hopens : Opens (writeAt style depth v ++ rest) := by
    obtain ⟨c, tail, hc, hspace, -⟩ := exists_writeAt h style depth
    exact hc ▸ .of_cons hspace
  refine ⟨_, style.colon ++ (writeAt style depth v ++ rest), s ++ (writeAt style depth v ++ rest),
    ?_, readUnits_writeString key, ?_, ?_⟩
  · simp [writeString]
  · rw [hcolon]
    exact skipSpace_eq_self (.of_cons (by decide))
  · rw [skipSpace_append hs hopens]
    exact hv l style depth fuel rest hwithin hfuel hrest

theorem readFields_writeFields (hproper : ∀ f ∈ fields, f.2.Proper)
    (h : ∀ f ∈ fields, ReadsBack f.2) (hwithin : ∀ f ∈ fields, f.2.Within l) (hne : fields ≠ [])
    (hfuel : (writeFields style depth fields).length + 1 ≤ fuel) (hs : Blank s) :
    readFields l fuel (writeFields style depth fields ++ (s ++ '\x7d' :: rest)) =
      .ok (fieldsReread fields, rest) := by
  induction fields generalizing fuel with
  | nil => exact absurd rfl hne
  | cons f fields ih =>
    obtain ⟨key, v⟩ := f
    have hv : ReadsBack v := h (key, v) List.mem_cons_self
    have hvproper : v.Proper := hproper (key, v) List.mem_cons_self
    obtain ⟨hvwithin, hwithin⟩ := List.forall_mem_cons.mp hwithin
    obtain ⟨fuel, rfl⟩ : ∃ k, fuel = k + 1 := ⟨fuel - 1, by omega⟩
    cases fields with
    | nil =>
      rw [writeFields] at hfuel ⊢
      simp only [List.length_append, List.append_assoc] at hfuel ⊢
      exact readFields_last (readsField_writeAt hvproper hv hvwithin (by omega) (.of_blank hs (by simp)))
        (skipSpace_append hs (.of_cons (by decide)))
    | cons g fields =>
      obtain ⟨c, hc, hcomma⟩ := exists_comma style depth
      rw [writeFields, hcomma] at hfuel ⊢
      · simp only [List.length_append, List.length_cons, List.append_assoc, List.cons_append]
          at hfuel ⊢
        have hlength : (writeFields style depth (g :: fields)).length + 1 ≤ fuel := by omega
        have hrest := ih (fun f hf => hproper f (List.mem_cons_of_mem _ hf))
          (fun f hf => h f (List.mem_cons_of_mem _ hf)) hwithin (List.cons_ne_nil _ _) hlength
        have hopens : Opens (writeFields style depth (g :: fields)) := by
          obtain ⟨tail, htail⟩ := exists_writeFields (List.cons_ne_nil g fields) style depth
          exact htail ▸ .of_cons (by decide)
        refine readFields_cons
          (s := c ++ (writeFields style depth (g :: fields) ++ (s ++ '\x7d' :: rest)))
          (readsField_writeAt hvproper hv hvwithin (by omega)
            (.of_blank (s := []) (by simp [Blank]) (.inl rfl)))
          (skipSpace_eq_self (.of_cons (by decide))) ?_
        rwa [skipSpace_append hc (hopens.append _)]
      · simp
      · simp

theorem Proper.readsBack (h : v.Proper) : ReadsBack v := by
  -- every value writes at least one character, so fuel for its length never runs out inside
  induction h with
  | null => exact readsBack_of_atom .null fun _ _ => atom_null
  | bool b => exact readsBack_of_atom (.bool b) fun _ _ => atom_bool b
  | int n => exact readsBack_of_atom (.int n) fun _ _ => atom_int n
  | real h => exact readsBack_of_atom (.real h) fun _ _ => atom_real h
  | string s =>
    intro l style depth fuel rest hwithin hfuel hrest
    obtain ⟨fuel, rfl⟩ : ∃ k, fuel = k + 1 := ⟨fuel - 1, by simp [writeAt, writeString] at hfuel; omega⟩
    simp [writeAt, writeString, readValue, readUnits_writeString, reread]
  | @array items h ih =>
    intro l style depth fuel rest hwithin hfuel hrest
    obtain ⟨l', hinside, hwithin⟩ := within_array_iff.mp hwithin
    cases items with
    | nil =>
      obtain ⟨fuel, rfl⟩ : ∃ k, fuel = k + 1 := ⟨fuel - 1, by simp [writeAt] at hfuel; omega⟩
      show readValue l (fuel + 1) ('[' :: ']' :: rest) = _
      rw [readValue, hinside]
      rfl
    | cons v items =>
      rw [writeAt] at hfuel ⊢
      simp only [List.length_append, List.length_cons, List.append_assoc, List.cons_append,
        List.length_nil, List.nil_append] at hfuel ⊢
      obtain ⟨fuel, rfl⟩ : ∃ k, fuel = k + 1 := ⟨fuel - 1, by omega⟩
      obtain ⟨c, tail, hc, hspace, hclose⟩ :=
        exists_writeItems h (List.cons_ne_nil _ _) style (depth + 1)
      refine readValue_array hinside ?_ (skipSpace_append (blank_edge _ _) ?_)
        (readItems_writeItems h ih hwithin (List.cons_ne_nil _ _) (by omega) (blank_edge _ _))
      · rw [hc]
        simpa using hclose
      · exact hc ▸ .of_cons hspace
  | @object fields hkeys h ih =>
    intro l style depth fuel rest hwithin hfuel hrest
    obtain ⟨l', hinside, hwithin⟩ := within_object_iff.mp hwithin
    cases fields with
    | nil =>
      obtain ⟨fuel, rfl⟩ : ∃ k, fuel = k + 1 := ⟨fuel - 1, by simp [writeAt] at hfuel; omega⟩
      show readValue l (fuel + 1) ('\x7b' :: '\x7d' :: rest) = _
      rw [readValue, hinside]
      rfl
    | cons f fields =>
      rw [writeAt] at hfuel ⊢
      simp only [List.length_append, List.length_cons, List.append_assoc, List.cons_append,
        List.length_nil, List.nil_append] at hfuel ⊢
      obtain ⟨fuel, rfl⟩ : ∃ k, fuel = k + 1 := ⟨fuel - 1, by omega⟩
      obtain ⟨tail, htail⟩ := exists_writeFields (List.cons_ne_nil f fields) style (depth + 1)
      have hlength : (writeFields style (depth + 1) (f :: fields)).length + 1 ≤ fuel := by omega
      have hread := readValue_object (t := style.edge (depth + 1) ++
          (writeFields style (depth + 1) (f :: fields) ++ (style.edge depth ++ '\x7d' :: rest)))
        hinside ?_ (skipSpace_append (blank_edge _ _) ?_)
        (readFields_writeFields h ih hwithin (List.cons_ne_nil _ _) hlength (blank_edge _ _))
      · rw [hread, reread, Fields.ofList_eq_self (by rwa [map_fst_fieldsReread])]
      · rw [htail]
        simp
      · exact htail ▸ .of_cons (by decide)

/-- What is written is read, within the limits that it keeps. -/
theorem read_write (h : v.Proper) (hwithin : v.Within l) (style : Style) :
    read l (v.write style) = .ok v.reread := by
  unfold write read
  obtain ⟨c, tail, hc, hspace, -⟩ := exists_writeAt h style 0
  have hopens : Opens (writeAt style 0 v) := hc ▸ .of_cons hspace
  have hvalue := h.readsBack l style 0 ((writeAt style 0 v).length + 1) [] hwithin (Nat.le_succ _) closes_nil
  rw [List.append_nil] at hvalue
  rw [skipSpace_eq_self hopens, hvalue]
  rfl

/-- What is written is read. -/
theorem read?_write (h : v.Proper) (style : Style) : read? (v.write style) = some v.reread := by
  rw [read?, read_write h (within_unlimited v)]
  rfl

/-! ## What is read -/

theorem forall_isDigit_of_wholeDigits? {whole : Text} (h : wholeDigits? t = some (whole, rest)) :
    whole ≠ [] ∧ ∀ c ∈ whole, c.isDigit := by
  unfold wholeDigits? at h
  split at h
  · cases h
    simp
  · have hspan : (spanDigits t).1 = t.takeWhile Char.isDigit := by
      rw [spanDigits, List.span_eq_takeWhile_dropWhile]
    split at h
    · cases h
    · next ds left hne heq =>
      cases h
      rw [heq] at hspan
      obtain rfl : whole = t.takeWhile Char.isDigit := hspan
      exact ⟨hne, fun c hc => List.mem_takeWhile_imp hc⟩

/-- What is read can be written and read again, and keeps within the limits. -/
def Sound (l : Limits) (v : Json) : Prop :=
  v.Proper ∧ v.Within l

theorem sound_of_integer {negative : Bool} {ds : Text} (hds : ds ≠ [] ∧ ∀ c ∈ ds, c.isDigit)
    (h : integer l negative ds = .ok v) : v.Sound l := by
  unfold integer at h
  split at h
  · cases h
  · next hfits =>
    cases h
    refine ⟨.int _, within_int_iff.mpr (Limits.excludes_of_le (Bool.eq_false_iff.mpr hfits) ?_)⟩
    exact Number.digitCount_decimal_le hds.2 hds.1 negative

theorem sound_of_unsigned {negative : Bool} (h : unsigned l negative t = .ok (v, rest)) : v.Sound l := by
  unfold unsigned at h
  cases hwhole : wholeDigits? t with
  | none => simp [hwhole] at h
  | some w =>
    obtain ⟨whole, t'⟩ := w
    simp only [hwhole] at h
    split at h
    · obtain ⟨n, hn, hv⟩ := exists_of_map_eq_ok h
      cases hv
      exact sound_of_integer (forall_isDigit_of_wholeDigits? hwhole) hn
    · cases h
      exact ⟨.real (Binary64.inFormat_ofDecimal ..), rfl⟩
    · cases h
      exact ⟨.real (Binary64.inFormat_ofDecimal ..), rfl⟩

theorem sound_of_constant? (h : constant? t = some (v, rest)) : v.Sound l := by
  have word : ∀ {w : String} {constant : Json} {other : Option (Json × Text)}, constant.Sound l →
      (other = some (v, rest) → v.Sound l) →
      ((word? w t).map (constant, ·) <|> other) = some (v, rest) → v.Sound l := by
    intro w constant other hconstant hother h
    cases hword : word? w t with
    | none => exact hother (by simpa [hword] using h)
    | some left =>
      rw [hword] at h
      cases h
      exact hconstant
  have hnan : Binary64.InFormat .nan := trivial
  have hinfinity : ∀ negative, Binary64.InFormat (.infinity negative) := fun _ => trivial
  refine word ⟨.null, rfl⟩ (word ⟨.bool true, rfl⟩ (word ⟨.bool false, rfl⟩ (word ⟨.real hnan, rfl⟩
    (word ⟨.real (hinfinity false), rfl⟩ fun h => ?_)))) h
  obtain ⟨left, -, hv⟩ := Option.map_eq_some_iff.mp h
  cases hv
  exact ⟨.real (hinfinity true), rfl⟩

theorem sound_of_atom (h : atom l t = .ok (v, rest)) : v.Sound l := by
  unfold atom at h
  split at h
  · next hconstant =>
    cases h
    exact sound_of_constant? hconstant
  · split at h <;> exact sound_of_unsigned h

theorem sound_array (hinside : l.inside? = some l') (h : ∀ v ∈ items, v.Sound l') :
    (array items).Sound l :=
  ⟨.array fun v hv => (h v hv).1, within_array_iff.mpr ⟨l', hinside, fun v hv => (h v hv).2⟩⟩

theorem sound_object (hinside : l.inside? = some l') (hkeys : (fields.map (·.1)).Nodup)
    (h : ∀ f ∈ fields, f.2.Sound l') : (object fields).Sound l :=
  ⟨.object hkeys fun f hf => (h f hf).1, within_object_iff.mpr ⟨l', hinside, fun f hf => (h f hf).2⟩⟩

theorem sound_of_reads (fuel : Nat) :
    (∀ l t v rest, readValue l fuel t = .ok (v, rest) → v.Sound l) ∧
      (∀ l t items rest, readItems l fuel t = .ok (items, rest) → ∀ v ∈ items, v.Sound l) ∧
      ∀ l t fields rest, readFields l fuel t = .ok (fields, rest) → ∀ f ∈ fields, f.2.Sound l := by
  -- the three readers call each other with less fuel
  induction fuel with
  | zero => simp [readValue, readItems, readFields]
  | succ fuel ih =>
    obtain ⟨hvalue, hitems, hfields⟩ := ih
    refine ⟨fun l t v rest h => ?_, fun l t items rest h => ?_, fun l t fields rest h => ?_⟩
    · unfold readValue at h
      split at h
      · split at h
        · cases h
          exact ⟨.string _, rfl⟩
        · cases h
      · split at h
        · cases h
        · next l' hinside =>
          split at h
          · cases h
            exact sound_array hinside (by simp)
          · obtain ⟨r, hread, hr⟩ := exists_of_map_eq_ok h
            cases hr
            exact sound_array hinside (hitems _ _ _ _ hread)
      · split at h
        · cases h
        · next l' hinside =>
          split at h
          · cases h
            exact sound_object hinside List.nodup_nil (by simp)
          · obtain ⟨r, hread, hr⟩ := exists_of_map_eq_ok h
            cases hr
            exact sound_object hinside (Fields.nodup_ofList _)
              fun f hf => hfields _ _ _ _ hread f (Fields.mem_of_mem_ofList hf)
      · exact sound_of_atom h
    · unfold readItems at h
      obtain ⟨⟨v, behind⟩, hread, h⟩ := exists_of_bind_eq_ok h
      dsimp only at h
      split at h
      · cases h
        simpa using hvalue _ _ _ _ hread
      · obtain ⟨⟨vs, left⟩, hmore, h⟩ := exists_of_bind_eq_ok h
        cases h
        exact List.forall_mem_cons.mpr ⟨hvalue _ _ _ _ hread, hitems _ _ _ _ hmore⟩
      · cases h
    · unfold readFields at h
      split at h
      · split at h
        · cases h
        · split at h
          · obtain ⟨⟨v, behind'⟩, hread, h⟩ := exists_of_bind_eq_ok h
            dsimp only at h
            split at h
            · cases h
              simpa using hvalue _ _ _ _ hread
            · obtain ⟨⟨fs, left⟩, hmore, h⟩ := exists_of_bind_eq_ok h
              cases h
              exact List.forall_mem_cons.mpr ⟨hvalue _ _ _ _ hread, hfields _ _ _ _ hmore⟩
            · cases h
          · cases h
      · cases h

/-- Whatever is read can be written and read again, within the same limits. -/
theorem sound_of_read (h : read l t = .ok v) : v.Sound l := by
  unfold read at h
  split at h
  · next w rest hread =>
    split at h
    · cases h
      exact (sound_of_reads _).1 _ _ _ _ hread
    · cases h
  · cases h

/-! ## What is beyond a limit -/

/-- Whether a result under limits is that without limits, unless a limit stopped the reader first. -/
def Stopped {α : Type} (x y : Except Flaw α) : Prop :=
  (∃ limit, x = .error (.beyond limit)) ∨ x = y

section

variable {α β : Type} {x y : Except Flaw α}

theorem Stopped.bind {f g : α → Except Flaw β} (h : Stopped x y) (hf : ∀ a, Stopped (f a) (g a)) :
    Stopped (x >>= f) (y >>= g) := by
  rcases h with ⟨limit, rfl⟩ | rfl
  · exact .inl ⟨limit, rfl⟩
  · cases x with
    | error flaw => exact .inr rfl
    | ok a => exact hf a

theorem Stopped.map {f : α → β} (h : Stopped x y) : Stopped (x.map f) (y.map f) := by
  rcases h with ⟨limit, rfl⟩ | rfl
  · exact .inl ⟨limit, rfl⟩
  · exact .inr rfl

end

theorem stopped_integer (l : Limits) (negative : Bool) (ds : Text) :
    Stopped (integer l negative ds) (integer {} negative ds) := by
  unfold integer
  split
  · exact .inl ⟨_, rfl⟩
  · exact .inr rfl

theorem stopped_unsigned (l : Limits) (negative : Bool) (t : Text) :
    Stopped (unsigned l negative t) (unsigned {} negative t) := by
  unfold unsigned
  cases wholeDigits? t with
  | none => exact .inr rfl
  | some w =>
    dsimp only
    split
    · exact (stopped_integer l negative w.1).map
    · exact .inr rfl
    · exact .inr rfl

theorem stopped_atom (l : Limits) (t : Text) : Stopped (atom l t) (atom {} t) := by
  unfold atom
  cases constant? t with
  | some found => exact .inr rfl
  | none =>
    dsimp only
    split <;> exact stopped_unsigned l _ _

/-- Limits change nothing that is read, but for where they stop the reader. -/
theorem stopped_reads (fuel : Nat) :
    (∀ l t, Stopped (readValue l fuel t) (readValue {} fuel t)) ∧
      (∀ l t, Stopped (readItems l fuel t) (readItems {} fuel t)) ∧
      ∀ l t, Stopped (readFields l fuel t) (readFields {} fuel t) := by
  induction fuel with
  | zero => exact ⟨fun _ _ => .inr rfl, fun _ _ => .inr rfl, fun _ _ => .inr rfl⟩
  | succ fuel ih =>
    obtain ⟨hvalue, hitems, hfields⟩ := ih
    refine ⟨fun l t => ?_, fun l t => ?_, fun l t => ?_⟩
    · unfold readValue
      split
      · exact .inr rfl
      · cases l.inside? with
        | none => exact .inl ⟨_, rfl⟩
        | some l' =>
          dsimp only [Limits.inside?_unlimited]
          split
          · exact .inr rfl
          · exact (hitems l' _).map
      · cases l.inside? with
        | none => exact .inl ⟨_, rfl⟩
        | some l' =>
          dsimp only [Limits.inside?_unlimited]
          split
          · exact .inr rfl
          · exact (hfields l' _).map
      · exact stopped_atom l _
    · unfold readItems
      refine (hvalue l t).bind fun r => ?_
      dsimp only
      split
      · exact .inr rfl
      · exact (hitems l _).bind fun r => .inr rfl
      · exact .inr rfl
    · unfold readFields
      split
      · split
        · exact .inr rfl
        · split
          · refine (hvalue l _).bind fun r => ?_
            dsimp only
            split
            · exact .inr rfl
            · exact (hfields l _).bind fun r => .inr rfl
            · exact .inr rfl
          · exact .inr rfl
      · exact .inr rfl

theorem stopped_read (l : Limits) (t : Text) : Stopped (read l t) (read {} t) := by
  unfold read
  rcases (stopped_reads (t.length + 1)).1 l (skipSpace t) with ⟨limit, hread⟩ | hread
  · rw [hread]
    exact .inl ⟨limit, rfl⟩
  · rw [hread]
    exact .inr rfl

/-- What is written for a value is read exactly within the limits that the value keeps; otherwise a limit
stops the reader. -/
theorem read_write_eq_beyond (h : v.Proper) (hbeyond : ¬ v.Within l) (style : Style) :
    ∃ limit, read l (v.write style) = .error (.beyond limit) := by
  refine (stopped_read l (v.write style)).resolve_right fun hread => hbeyond ?_
  rw [read_write h (within_unlimited v)] at hread
  exact (overrun?_reread l v).symm.trans (sound_of_read hread).2

end Json

end Kudos
