import Mathlib
import Kudos.Json.Printer
import Kudos.Json.Reader

/-!
# Values within limits

A value keeps within limits if all the values in it do, with one level less to go. Without limits every
value does (`within_unlimited`), and a key of an object may be set to a value that does.
-/

namespace Kudos

/-! ## Results of two steps -/

section

variable {ε α β : Type} {x : Except ε α} {b : β}

theorem exists_of_bind_eq_ok {f : α → Except ε β} (h : (x >>= f) = .ok b) : ∃ a, x = .ok a ∧ f a = .ok b := by
  cases x with
  | error e => cases h
  | ok a => exact ⟨a, rfl, h⟩

theorem exists_of_map_eq_ok {f : α → β} (h : x.map f = .ok b) : ∃ a, x = .ok a ∧ f a = b := by
  cases x with
  | error e => cases h
  | ok a => exact ⟨a, rfl, Except.ok.inj h⟩

end

/-! ## Limits -/

namespace Limits

variable {l l' : Limits}

@[simp] theorem inside?_unlimited : ({} : Limits).inside? = some {} :=
  rfl

@[simp] theorem excludes_ofRoom (room n : Nat) :
    (ofRoom room).excludes n = decide (Number.mostDigits < n) :=
  rfl

theorem excludes_of_le {m n : Nat} (h : l.excludes n = false) (hle : m ≤ n) : l.excludes m = false := by
  unfold excludes at h ⊢
  cases hdigits : l.digits with
  | none => rfl
  | some most =>
    rw [hdigits] at h
    have hmost : n ≤ most := by simpa using h
    simpa using le_trans hle hmost

theorem excludes_of_inside? (h : l.inside? = some l') (n : Nat) : l'.excludes n = l.excludes n := by
  unfold inside? at h
  split at h
  · cases h
    rfl
  · cases h
  · cases h
    rfl

theorem inside?_ofRoom (room : Nat) : ∃ l, (ofRoom room).inside? = some l :=
  ⟨_, rfl⟩

end Limits

/-! ## Values -/

namespace Json

variable {l l' : Limits} {v : Json} {items : List Json} {fields : List (Units × Json)}

/-- Whether a value keeps within some limits. -/
def Within (l : Limits) (v : Json) : Prop :=
  v.overrun? l = none

instance : Decidable (v.Within l) :=
  inferInstanceAs (Decidable (v.overrun? l = none))

theorem listOverrun?_eq_none_iff : listOverrun? l items = none ↔ ∀ v ∈ items, v.Within l := by
  induction items with
  | nil => simp [listOverrun?]
  | cons v rest ih =>
    rw [listOverrun?, Option.or_eq_none_iff, ih, List.forall_mem_cons]
    rfl

theorem fieldsOverrun?_eq_none_iff : fieldsOverrun? l fields = none ↔ ∀ f ∈ fields, f.2.Within l := by
  induction fields with
  | nil => simp [fieldsOverrun?]
  | cons f rest ih =>
    rw [fieldsOverrun?, Option.or_eq_none_iff, ih, List.forall_mem_cons]
    rfl

theorem within_array_iff :
    (array items).Within l ↔ ∃ l', l.inside? = some l' ∧ ∀ v ∈ items, v.Within l' := by
  rw [Within, overrun?]
  cases l.inside? with
  | none => simp
  | some l' => simp [listOverrun?_eq_none_iff]

theorem within_object_iff :
    (object fields).Within l ↔ ∃ l', l.inside? = some l' ∧ ∀ f ∈ fields, f.2.Within l' := by
  rw [Within, overrun?]
  cases l.inside? with
  | none => simp
  | some l' => simp [fieldsOverrun?_eq_none_iff]

theorem within_int_iff {n : Int} : (int n).Within l ↔ l.excludes (Number.digitCount n) = false := by
  rw [Within, overrun?]
  simp

theorem within_string (l : Limits) (s : Units) : (string s).Within l :=
  rfl

/-- The first limit that an object with a key set goes beyond is that of the new value. -/
theorem overrun?_object_set (hfields : (object fields).Within l) (hinside : l.inside? = some l')
    (key : Units) (value : Json) :
    (object (Fields.set key value fields)).overrun? l = value.overrun? l' := by
  obtain ⟨l₁, hl₁, hall⟩ := within_object_iff.mp hfields
  obtain rfl : l' = l₁ := by
    rw [hl₁] at hinside
    exact (Option.some.inj hinside).symm
  rw [overrun?, hinside]
  dsimp only
  induction fields with
  | nil => simp [Fields.set, fieldsOverrun?]
  | cons f rest ih =>
    obtain ⟨hf, hrest⟩ := List.forall_mem_cons.mp hall
    obtain ⟨k, v⟩ := f
    have hnone : fieldsOverrun? l' rest = none := fieldsOverrun?_eq_none_iff.mpr hrest
    have hv : overrun? l' v = none := hf
    rw [Fields.set]
    split
    · rw [fieldsOverrun?, hnone, Option.or_none]
    · rw [fieldsOverrun?, hv, Option.none_or]
      exact ih (within_object_iff.mpr ⟨l', hl₁, hrest⟩) hrest

/-- A value in a collection sees the same limit on digits. -/
theorem Within.mono_int {n : Int} (h : (int n).Within l) (hinside : l.inside? = some l') :
    (int n).Within l' := by
  rw [within_int_iff, Limits.excludes_of_inside? hinside]
  exact within_int_iff.mp h

mutual

/-- Without limits there is no value that is too large. -/
theorem within_unlimited (v : Json) : v.Within {} := by
  match v with
  | null | bool b | real x | string s => rfl
  | int n => exact within_int_iff.mpr rfl
  | array items => exact within_array_iff.mpr ⟨{}, rfl, listWithin_unlimited items⟩
  | object fields => exact within_object_iff.mpr ⟨{}, rfl, fieldsWithin_unlimited fields⟩

theorem listWithin_unlimited (items : List Json) : ∀ v ∈ items, v.Within {} := by
  match items with
  | [] => simp
  | v :: rest => exact List.forall_mem_cons.mpr ⟨within_unlimited v, listWithin_unlimited rest⟩

theorem fieldsWithin_unlimited (fields : List (Units × Json)) : ∀ f ∈ fields, f.2.Within {} := by
  match fields with
  | [] => simp
  | f :: rest => exact List.forall_mem_cons.mpr ⟨within_unlimited f.2, fieldsWithin_unlimited rest⟩

end

theorem writeWithin_eq_ok (h : v.Within l) (style : Style) : v.writeWithin l style = .ok (v.write style) := by
  unfold writeWithin
  rw [h]

end Json

end Kudos
