import Mathlib.Data.List.Basic
import Mathlib.Data.List.Induction
import NoteMuse.Distinct

/-!
A list without its later repetitions keeps of every element the first occurrence.
-/

namespace NoteMuse

variable {α : Type} [DecidableEq α]

theorem distinct_eq_eraseDups (xs : List α) : distinct xs = xs.eraseDups := by
  induction xs using List.reverseRecOn with
  | nil => rfl
  | append_singleton xs x ih =>
    rw [distinct_append_singleton, ih, List.eraseDups_append]
    by_cases hx : x ∈ xs
    · rw [if_pos (List.mem_eraseDups.mpr hx)]
      simp [List.removeAll, hx]
    · rw [if_neg (mt List.mem_eraseDups.mp hx)]
      simp [List.removeAll, hx, List.eraseDups_cons]

theorem mem_distinct {xs : List α} {x : α} : x ∈ distinct xs ↔ x ∈ xs := by
  rw [distinct_eq_eraseDups, List.mem_eraseDups]

theorem distinct_eq_nil_iff {xs : List α} : distinct xs = [] ↔ xs = [] := by
  simp only [List.eq_nil_iff_forall_not_mem, mem_distinct]

theorem nodup_distinct (xs : List α) : (distinct xs).Nodup := by
  induction xs using List.reverseRecOn with
  | nil => exact List.nodup_nil
  | append_singleton xs x ih =>
    rw [distinct_append_singleton]
    by_cases hx : x ∈ distinct xs
    · rwa [if_pos hx]
    · rw [if_neg hx]
      refine List.nodup_append.mpr ⟨ih, List.pairwise_singleton .., ?_⟩
      intro y hy z hz
      rw [List.mem_singleton.mp hz]
      exact fun h => hx (h ▸ hy)

theorem distinct_pairwise (xs : List α) : (distinct xs).Pairwise fun a b => xs.idxOf a < xs.idxOf b := by
  induction xs using List.reverseRecOn with
  | nil => exact .nil
  | append_singleton xs x ih =>
    have hold : (distinct xs).Pairwise fun a b => (xs ++ [x]).idxOf a < (xs ++ [x]).idxOf b := by
      refine ih.imp_of_mem fun ha hb h => ?_
      rwa [List.idxOf_append_of_mem (mem_distinct.mp ha), List.idxOf_append_of_mem (mem_distinct.mp hb)]
    rw [distinct_append_singleton]
    split
    · exact hold
    · next hx =>
      rw [mem_distinct] at hx
      refine List.pairwise_append.mpr ⟨hold, List.pairwise_singleton .., fun a ha b hb => ?_⟩
      have hmem := mem_distinct.mp ha
      rw [List.mem_singleton.mp hb, List.idxOf_append_of_mem hmem, List.idxOf_append_of_notMem hx]
      exact Nat.lt_add_right _ (List.idxOf_lt_length_iff.mpr hmem)

theorem distinct_filter (p : α → Bool) (xs : List α) : distinct (xs.filter p) = (distinct xs).filter p := by
  induction xs using List.reverseRecOn with
  | nil => rfl
  | append_singleton xs x ih =>
    rw [distinct_append_singleton, List.filter_append]
    cases hp : p x with
    | false =>
      rw [List.filter_cons_of_neg (by simp [hp]), List.filter_nil, List.append_nil, ih]
      split <;> simp [hp]
    | true =>
      rw [List.filter_cons_of_pos hp, List.filter_nil, distinct_append_singleton, ih]
      by_cases hx : x ∈ distinct xs <;> simp [hx, hp]

theorem distinct_eq_self {xs : List α} (h : xs.Nodup) : distinct xs = xs := by
  induction xs using List.reverseRecOn with
  | nil => rfl
  | append_singleton xs x ih =>
    obtain ⟨hxs, -, hdisjoint⟩ := List.nodup_append.mp h
    have hx : x ∉ xs := fun hmem => hdisjoint x hmem x (List.mem_singleton_self x) rfl
    rw [distinct_append_singleton, ih hxs, if_neg hx]

end NoteMuse
