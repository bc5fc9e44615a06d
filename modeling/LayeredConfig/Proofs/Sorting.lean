import LayeredConfig.Sorting
import Mathlib.Data.List.Sort

/-
  Sorting is insertion sort (`sortBy_eq_insertionSort`): it keeps the items of a list
  (`perm_sortBy`), and by a comparison that is total and transitive it puts them in order
  (`pairwise_sortBy`).
-/

namespace LayeredConfig

variable {α : Type} (le : α → α → Bool)

theorem insertOrdered_eq_orderedInsert (x : α) (xs : List α) :
    insertOrdered le x xs = xs.orderedInsert (fun a b => le a b = true) x := by
  induction xs with
  | nil => rfl
  | cons y ys ih => rw [insertOrdered, List.orderedInsert_cons, ih]

theorem sortBy_eq_insertionSort (xs : List α) :
    sortBy le xs = xs.insertionSort fun a b => le a b = true := by
  induction xs with
  | nil => rfl
  | cons x xs ih =>
    rw [List.insertionSort_cons, ← ih, ← insertOrdered_eq_orderedInsert]
    rfl

theorem perm_sortBy (xs : List α) : (sortBy le xs).Perm xs := by
  rw [sortBy_eq_insertionSort]
  exact List.perm_insertionSort _ xs

@[simp] theorem mem_sortBy {x : α} {xs : List α} : x ∈ sortBy le xs ↔ x ∈ xs :=
  (perm_sortBy le xs).mem_iff

variable {le}

/-- By a total and transitive comparison, no item of a sorted list is smaller than one before it. -/
theorem pairwise_sortBy (htotal : ∀ a b, le a b = true ∨ le b a = true)
    (htrans : ∀ a b c, le a b = true → le b c = true → le a c = true) (xs : List α) :
    (sortBy le xs).Pairwise fun a b => le a b = true := by
  have : Std.Total fun a b => le a b = true := ⟨htotal⟩
  have : IsTrans α fun a b => le a b = true := ⟨htrans⟩
  rw [sortBy_eq_insertionSort]
  exact List.pairwise_insertionSort _ xs

end LayeredConfig
