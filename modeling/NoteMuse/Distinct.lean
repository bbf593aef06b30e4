/-!
Lists without repetitions.
-/

namespace NoteMuse

/-- The list without later repetitions. -/
def distinct {α : Type} [DecidableEq α] (xs : List α) : List α :=
  xs.foldl (fun found x => if x ∈ found then found else found ++ [x]) []

theorem distinct_append_singleton {α : Type} [DecidableEq α] (xs : List α) (x : α) :
    distinct (xs ++ [x]) = if x ∈ distinct xs then distinct xs else distinct xs ++ [x] := by
  rw [distinct, List.foldl_append]
  rfl

def sortedDistinct (xs : List String) : List String :=
  (distinct xs).mergeSort fun a b => decide (a ≤ b)

end NoteMuse
