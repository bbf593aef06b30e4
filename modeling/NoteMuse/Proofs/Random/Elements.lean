import Mathlib.Data.List.Perm.Basic
import NoteMuse.Random.Sample

/-!
Elements that are drawn from a list are elements of it, and a shuffled list has the same elements.
-/

namespace NoteMuse.Random

variable {α : Type} {xs : List α} {g : Generator}

theorem bind_apply {β : Type} (d : Draw α) (f : α → Draw β) (g : Generator) :
    (d >>= f) g = f (d g).1 (d g).2 := rfl

theorem choose?_mem {x : α} (h : (choose? xs g).1 = some x) : x ∈ xs := by
  unfold choose? at h
  split at h
  · cases h
  · exact List.mem_of_getElem? h

/-- Of a list that is not empty an element is drawn. -/
theorem choose?_eq_none_iff : (choose? xs g).1 = none ↔ xs = [] := by
  unfold choose?
  cases xs with
  | nil => exact iff_of_true rfl rfl
  | cons x xs =>
    have hlt : (placeBelow (x :: xs).length g).1 < (x :: xs).length := placeBelow_lt (by simp) g
    simp only [List.isEmpty_cons, Bool.false_eq_true, if_false, reduceCtorEq, iff_false]
    rw [bind_apply]
    intro hnone
    have hle := List.getElem?_eq_none_iff.mp hnone
    omega

theorem swapIfInBounds_perm (ys : Array α) (i j : Nat) : (ys.swapIfInBounds i j).Perm ys := by
  unfold Array.swapIfInBounds
  split
  · split
    · exact Array.swap_perm _ _
    · exact .refl _
  · exact .refl _

theorem shuffleFrom_perm (i : Nat) (ys : Array α) (g : Generator) : (shuffleFrom i ys g).1.Perm ys := by
  induction i generalizing ys g with
  | zero => exact .refl _
  | succ i ih => exact (ih _ _).trans (swapIfInBounds_perm ys _ _)

/-- **A shuffled list is the list in another order.** -/
theorem shuffle_perm (xs : List α) (g : Generator) : (shuffle xs g).1.Perm xs :=
  (shuffleFrom_perm (xs.length - 1) xs.toArray g).toList

theorem sample_subset (k : Nat) (xs : List α) (g : Generator) : (sample k xs g).1 ⊆ xs := by
  intro x hx
  obtain ⟨i, -, hi⟩ := List.mem_filterMap.mp hx
  exact List.mem_of_getElem? hi

end NoteMuse.Random
