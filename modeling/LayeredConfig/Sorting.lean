/-
  Stable sorting of lists by a comparison.
-/

namespace LayeredConfig

/-- Puts `x` before the first item that is not smaller. -/
def insertOrdered {α : Type} (le : α → α → Bool) (x : α) : List α → List α
  | [] => [x]
  | y :: ys => if le x y then x :: y :: ys else y :: insertOrdered le x ys

/-- The list in ascending order; equal items keep their order. -/
def sortBy {α : Type} (le : α → α → Bool) (xs : List α) : List α :=
  xs.foldr (insertOrdered le) []

end LayeredConfig
