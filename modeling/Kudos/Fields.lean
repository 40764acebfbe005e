/-!
# Fields

The fields of an object or a table: keys with their values, in the order in which the keys were
first written.
-/

namespace Kudos.Fields

variable {κ ν : Type} [DecidableEq κ]

/-- The value of a key. -/
def get? (fields : List (κ × ν)) (key : κ) : Option ν :=
  (fields.find? fun f => f.1 = key).map (·.2)

/-- The fields with a key set to a value: in its old place if the key is there, else at the end. -/
def set (key : κ) (value : ν) : List (κ × ν) → List (κ × ν)
  | [] => [(key, value)]
  | (k, v) :: rest => if k = key then (key, value) :: rest else (k, v) :: set key value rest

/-- A key that was set has its new value. -/
theorem get?_set_self (key : κ) (value : ν) (fields : List (κ × ν)) :
    get? (set key value fields) key = some value := by
  induction fields with
  | nil => simp [set, get?]
  | cons f rest ih =>
    by_cases h : f.1 = key
    · simp [set, get?, h]
    · simpa [set, get?, h] using ih

/-- Other keys keep their values. -/
theorem get?_set_of_ne {key other : κ} (h : other ≠ key) (value : ν) (fields : List (κ × ν)) :
    get? (set key value fields) other = get? fields other := by
  induction fields with
  | nil => simp [set, get?, h.symm]
  | cons f rest ih =>
    by_cases hf : f.1 = key
    · simp [set, get?, hf, h.symm]
    · by_cases ho : f.1 = other
      · simp [set, get?, ho, h]
      · simpa [set, get?, hf, ho] using ih

theorem mem_of_get? {key : κ} {value : ν} {fields : List (κ × ν)} (h : get? fields key = some value) :
    (key, value) ∈ fields := by
  obtain ⟨f, hf, rfl⟩ := Option.map_eq_some_iff.mp h
  have hkey : decide (f.1 = key) = true := by
    simpa using List.find?_some (p := fun f : κ × ν => f.1 = key) hf
  rw [decide_eq_true_eq] at hkey
  rw [← hkey]
  exact List.mem_of_find?_eq_some hf

theorem get?_of_not_mem {key : κ} {fields : List (κ × ν)} (h : key ∉ fields.map (·.1)) :
    get? fields key = none := by
  simp only [List.mem_map, not_exists, not_and] at h
  simpa [get?] using fun k v hf => h (k, v) hf

/-- Of a key that is set twice the second value counts. -/
theorem set_set (key : κ) (value value' : ν) (fields : List (κ × ν)) :
    set key value' (set key value fields) = set key value' fields := by
  induction fields with
  | nil => simp [set]
  | cons f rest ih =>
    by_cases h : f.1 = key
    · simp [set, h]
    · simp [set, h, ih]

/-- The keys stay in their places, and a new one comes last. -/
theorem map_fst_set (key : κ) (value : ν) (fields : List (κ × ν)) :
    (set key value fields).map (·.1) =
      if key ∈ fields.map (·.1) then fields.map (·.1) else fields.map (·.1) ++ [key] := by
  induction fields with
  | nil => simp [set]
  | cons f rest ih =>
    by_cases h : f.1 = key
    · simp [set, h]
    · have h' : key ≠ f.1 := fun e => h e.symm
      simp only [set, h, ↓reduceIte, List.map_cons, ih, List.mem_cons, h', false_or]
      split <;> simp

/-- A new key comes last. -/
theorem set_of_not_mem {key : κ} (value : ν) {fields : List (κ × ν)}
    (h : key ∉ fields.map (·.1)) : set key value fields = fields ++ [(key, value)] := by
  induction fields with
  | nil => rfl
  | cons f rest ih =>
    rw [List.map_cons, List.mem_cons, not_or] at h
    rw [set, if_neg (Ne.symm h.1), ih h.2, List.cons_append]

/-- No field comes in but the one that is set. -/
theorem eq_or_mem_of_mem_set {key : κ} {value : ν} {f : κ × ν} {fields : List (κ × ν)}
    (h : f ∈ set key value fields) : f = (key, value) ∨ f ∈ fields := by
  induction fields with
  | nil => exact .inl (List.mem_singleton.mp h)
  | cons g rest ih =>
    unfold set at h
    split at h
    · exact (List.mem_cons.mp h).imp_right (List.mem_cons_of_mem _)
    · rcases List.mem_cons.mp h with rfl | h
      · exact .inr List.mem_cons_self
      · exact (ih h).imp_right (List.mem_cons_of_mem _)

/-- No key comes in twice. -/
theorem nodup_set {key : κ} {value : ν} {fields : List (κ × ν)} (h : (fields.map (·.1)).Nodup) :
    ((set key value fields).map (·.1)).Nodup := by
  rw [map_fst_set]
  split
  · exact h
  · next hnew =>
    refine List.nodup_append.mpr ⟨h, List.pairwise_singleton _ _, fun k hk k' hk' heq => hnew ?_⟩
    rw [← List.mem_singleton.mp hk', ← heq]
    exact hk

/-- The fields without a key. -/
def erase (key : κ) (fields : List (κ × ν)) : List (κ × ν) :=
  fields.filter fun f => f.1 ≠ key

theorem get?_erase_self (key : κ) (fields : List (κ × ν)) : get? (erase key fields) key = none := by
  refine get?_of_not_mem fun h => ?_
  obtain ⟨f, hf, rfl⟩ := List.mem_map.mp h
  simpa using (List.mem_filter.mp hf).2

theorem get?_erase_of_ne {key other : κ} (h : other ≠ key) (fields : List (κ × ν)) :
    get? (erase key fields) other = get? fields other := by
  induction fields with
  | nil => rfl
  | cons f rest ih =>
    by_cases hf : f.1 = key
    · have ho : f.1 ≠ other := fun heq => h (heq ▸ hf)
      simpa [erase, get?, hf, h.symm] using ih
    · by_cases ho : f.1 = other
      · subst ho
        simp [erase, get?, h]
      · simpa [erase, get?, hf, ho] using ih

/-- Fields set one after the other: of a repeated key the last value counts, in the first place. -/
def ofList (pairs : List (κ × ν)) : List (κ × ν) :=
  pairs.foldl (fun fields (k, v) => set k v fields) []

theorem nodup_ofList (pairs : List (κ × ν)) : ((ofList pairs).map (·.1)).Nodup := by
  have kept : ∀ (pairs fields : List (κ × ν)), (fields.map (·.1)).Nodup →
      ((pairs.foldl (fun fields (k, v) => set k v fields) fields).map (·.1)).Nodup := by
    intro pairs
    induction pairs with
    | nil => exact fun fields h => h
    | cons f pairs ih => exact fun fields h => ih _ (nodup_set h)
  exact kept pairs [] List.nodup_nil

theorem mem_of_mem_ofList {f : κ × ν} {pairs : List (κ × ν)} (h : f ∈ ofList pairs) : f ∈ pairs := by
  have kept : ∀ (pairs fields : List (κ × ν)),
      f ∈ pairs.foldl (fun fields (k, v) => set k v fields) fields → f ∈ fields ∨ f ∈ pairs := by
    intro pairs
    induction pairs with
    | nil => exact fun fields h => .inl h
    | cons g pairs ih =>
      intro fields h
      rcases ih _ h with h | h
      · rcases eq_or_mem_of_mem_set h with rfl | h
        · exact .inr List.mem_cons_self
        · exact .inl h
      · exact .inr (List.mem_cons_of_mem _ h)
  exact (kept pairs [] h).resolve_left List.not_mem_nil

/-- Fields of which no key is repeated stay as they are. -/
theorem ofList_eq_self {pairs : List (κ × ν)} (h : (pairs.map (·.1)).Nodup) :
    ofList pairs = pairs := by
  have kept : ∀ (pairs fields : List (κ × ν)), ((fields ++ pairs).map (·.1)).Nodup →
      pairs.foldl (fun fields (k, v) => set k v fields) fields = fields ++ pairs := by
    intro pairs
    induction pairs with
    | nil => exact fun fields _ => (List.append_nil fields).symm
    | cons f pairs ih =>
      intro fields h
      have hnew : f.1 ∉ fields.map (·.1) := by
        rw [List.map_append, List.nodup_append] at h
        exact fun hmem => h.2.2 _ hmem f.1 (by simp) rfl
      have hset : (match f with | (k, v) => set k v fields) = fields ++ [f] := set_of_not_mem f.2 hnew
      rw [List.foldl_cons, hset, ih _ (by simpa using h), List.append_assoc,
        List.singleton_append]
  exact kept pairs [] h

end Kudos.Fields
