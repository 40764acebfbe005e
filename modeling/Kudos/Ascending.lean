/-!
# Ascending lists

The distinct items of a list in ascending order. The list that is made has the items of the given
one, has none of them twice, and is in order whenever the order is transitive and total.
-/

namespace Kudos.Ascending

variable {α : Type} [DecidableEq α]

/-- The distinct items of a list in ascending order. -/
def ofList (le : α → α → Bool) (items : List α) : List α :=
  items.eraseDups.mergeSort le

/-- The items are those of the given list. -/
@[simp] theorem mem_ofList {le : α → α → Bool} {a : α} {items : List α} :
    a ∈ ofList le items ↔ a ∈ items := by
  simp [ofList]

/-- A list without its repetitions has none. -/
theorem nodup_eraseDups : (items : List α) → items.eraseDups.Nodup
  | [] => by simp
  | a :: items => by
    rw [List.eraseDups_cons, List.nodup_cons]
    exact ⟨by simp, nodup_eraseDups _⟩
termination_by items => items.length
decreasing_by exact Nat.lt_succ_of_le (List.length_filter_le ..)

/-- No item stands twice. -/
theorem nodup_ofList (le : α → α → Bool) (items : List α) : (ofList le items).Nodup :=
  (List.mergeSort_perm _ _).nodup_iff.mpr (nodup_eraseDups items)

/-- Every item comes before the greater ones. -/
theorem pairwise_ofList {le : α → α → Bool} (trans : ∀ a b c, le a b → le b c → le a c)
    (total : ∀ a b, le a b || le b a) (items : List α) :
    (ofList le items).Pairwise fun a b => le a b ∧ a ≠ b :=
  (List.pairwise_mergeSort trans total _).and (nodup_ofList le items)

end Kudos.Ascending
