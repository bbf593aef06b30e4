import Mathlib.Data.List.Nodup
import NoteMuse.Proofs.Random.Elements

/-!
A sample has no element twice. Each way to draw places gives different ones: a list of all places that is
shuffled, a sample to which a number is added that it does not have, and draws that are repeated until they give
another number. Main statements: `picks_sampleIndices`, `subperm_sample`.
-/

namespace NoteMuse.Random

variable {n k m t x : Nat} {is js : List Nat} {g : Generator}

/-- The numbers are `k` different ones below `n`. -/
structure Picks (n k : Nat) (is : List Nat) : Prop where
  lt : ∀ i ∈ is, i < n
  nodup : is.Nodup
  length_eq : is.length = k

namespace Picks

theorem nil (n : Nat) : Picks n 0 [] := ⟨by simp, .nil, rfl⟩

lemma perm (h : Picks n k is) (hp : js.Perm is) : Picks n k js where
  lt i hi := h.lt i (hp.mem_iff.mp hi)
  nodup := hp.nodup_iff.mpr h.nodup
  length_eq := hp.length_eq.trans h.length_eq

theorem cons (h : Picks n k is) (hx : x < n) (hnew : x ∉ is) : Picks n (k + 1) (x :: is) where
  lt := List.forall_mem_cons.mpr ⟨hx, h.lt⟩
  nodup := List.nodup_cons.mpr ⟨hnew, h.nodup⟩
  length_eq := congrArg (· + 1) h.length_eq

lemma mono (h : Picks n k is) (hnm : n ≤ m) : Picks m k is where
  lt i hi := Nat.lt_of_lt_of_le (h.lt i hi) hnm
  nodup := h.nodup
  length_eq := h.length_eq

lemma subperm_range (h : Picks n k is) : is.Subperm (List.range n) :=
  List.subperm_of_subset h.nodup fun i hi => List.mem_range.mpr (h.lt i hi)

end Picks

/-! ### Shuffling in place -/

lemma swapForward_perm (i k : Nat) (xs : Array Nat) (g : Generator) : (swapForward i k xs g).1.Perm xs := by
  induction k generalizing i xs g with
  | zero => exact .refl _
  | succ k ih => exact (ih _ _ _).trans (swapIfInBounds_perm xs _ _)

lemma picks_take (hp : is.Perm (List.range n)) (hk : k ≤ n) : Picks n k (is.take k) where
  lt i hi := List.mem_range.mp (hp.mem_iff.mp (List.mem_of_mem_take hi))
  nodup := (hp.nodup_iff.mpr List.nodup_range).sublist (List.take_sublist ..)
  length_eq := by
    rw [List.length_take, hp.length_eq, List.length_range]
    exact Nat.min_eq_left hk

/-! ### Growing -/

/-- The first number is added if it is new, and else the second one, at some place. -/
def AddsNew (add : Nat → Nat → List Nat → List Nat) : Prop :=
  ∀ t x is, (add t x is).Perm ((if t ∈ is then x else t) :: is)

lemma insertNew_eq_append (h : t ∉ is) : insertNew t x is = is ++ [t] := by
  induction is with
  | nil => rfl
  | cons y ys ih =>
    rw [List.mem_cons, not_or] at h
    rw [insertNew, if_neg (Ne.symm h.1), ih h.2]
    rfl

lemma insertNew_perm_cons (h : t ∈ is) : (insertNew t x is).Perm (x :: is) := by
  induction is with
  | nil => cases h
  | cons y ys ih =>
    unfold insertNew
    split
    · exact .refl _
    · next hne =>
      have hmem : t ∈ ys := (List.mem_cons.mp h).resolve_left (Ne.symm hne)
      exact ((ih hmem).cons y).trans (.swap x y ys)

lemma addsNew_insertNew : AddsNew insertNew := by
  intro t x is
  split
  · next h => exact insertNew_perm_cons h
  · next h =>
    rw [insertNew_eq_append h]
    exact List.perm_append_singleton t is

lemma addsNew_appendNew : AddsNew appendNew := by
  intro t x is
  unfold appendNew
  rw [List.contains_eq_mem]
  simp only [decide_eq_true_eq]
  exact List.perm_append_singleton _ is

/-- What is added to different numbers below `x`, with `t` up to `x`, is another number up to `x`. -/
theorem AddsNew.picks {add : Nat → Nat → List Nat → List Nat} (ha : AddsNew add) (h : Picks x k is)
    (ht : t ≤ x) : Picks (x + 1) (k + 1) (add t x is) := by
  refine Picks.perm ?_ (ha t x is)
  have hup : Picks (x + 1) k is := h.mono (Nat.le_succ x)
  split
  · -- all numbers so far are below `x`, so `x` itself is none of them
    exact hup.cons (Nat.lt_succ_self x) fun hx => Nat.lt_irrefl x (h.lt x hx)
  · next hnew => exact hup.cons (Nat.lt_succ_of_le ht) hnew

lemma picks_growSample {add : Nat → Nat → List Nat → List Nat} (ha : AddsNew add) (h : Picks x m is) :
    Picks (x + k) (m + k) (growSample add x k is g).1 := by
  induction k generalizing x m is g with
  | zero => exact h
  | succ k ih =>
    have ht : (below32 (x + 1) g).1 ≤ x := Nat.le_of_lt_succ (below32_lt (Nat.succ_pos x) g)
    have hrun := ih (ha.picks h ht) (g := (below32 (x + 1) g).2)
    rwa [Nat.succ_add_eq_add_succ, Nat.succ_add_eq_add_succ] at hrun

/-! ### Drawing again -/

/-- The numbers up to the length of a list are more than the list has. -/
theorem exists_le_length_notMem (is : List Nat) : ∃ i ≤ is.length, i ∉ is := by
  by_contra hall
  have hsub : List.range (is.length + 1) ⊆ is := by
    intro i hi
    by_contra hnew
    exact hall ⟨i, Nat.le_of_lt_succ (List.mem_range.mp hi), hnew⟩
  have hle := List.nodup_range.length_le_of_subset hsub
  rw [List.length_range] at hle
  omega

lemma leastAbsent_spec (is : List Nat) : leastAbsent is ≤ is.length ∧ leastAbsent is ∉ is := by
  unfold leastAbsent
  cases hf : (List.range (is.length + 1)).find? fun i => !is.contains i with
  | none =>
    obtain ⟨i, hle, hnew⟩ := exists_le_length_notMem is
    have hmem := List.find?_eq_none.mp hf i (List.mem_range.mpr (Nat.lt_succ_of_le hle))
    simp [hnew] at hmem
  | some i =>
    obtain ⟨hnew, hi, -⟩ := List.find?_range_eq_some.mp hf
    exact ⟨Nat.le_of_lt_succ (List.mem_range.mp hi), by simpa using hnew⟩

/-- While there are fewer numbers than the bound, another one below the bound is drawn. -/
theorem drawAbsent_spec {w : Words} (hlen : is.length < n) (tries : Nat) (g : Generator) :
    (drawAbsent w n is tries g).1 < n ∧ (drawAbsent w n is tries g).1 ∉ is := by
  induction tries generalizing g with
  | zero =>
    obtain ⟨hle, hnew⟩ := leastAbsent_spec is
    exact ⟨Nat.lt_of_le_of_lt hle hlen, hnew⟩
  | succ tries ih =>
    rw [drawAbsent, bind_apply]
    split
    · exact ih _
    · next hnew =>
      have hnot : (w.evenBelow n g).1 ∉ is := by simpa using hnew
      exact ⟨Words.evenBelow_lt (Nat.zero_lt_of_lt hlen) g, hnot⟩

lemma picks_collect {w : Words} (h : Picks n m is) (hk : m + k ≤ n) :
    Picks n (m + k) (collect w n k is g).1 := by
  induction k generalizing m is g with
  | zero => exact h
  | succ k ih =>
    have hlen : is.length < n := by
      rw [h.length_eq]
      omega
    obtain ⟨hlt, hnew⟩ := drawAbsent_spec (w := w) hlen period g
    have hadd := (h.cons hlt hnew).perm (List.perm_append_singleton _ is)
    rw [collect, bind_apply]
    rw [← Nat.succ_add_eq_add_succ] at hk ⊢
    exact ih hadd hk

/-! ### Samples -/

/-- **Whichever way places are drawn**, they are different ones. -/
theorem picks_sampleIndices (hk : k ≤ n) (g : Generator) : Picks n k (sampleIndices k n g).1 := by
  have hcollect (w : Words) : Picks n k (collect w n k [] g).1 := by
    have hrun := picks_collect (w := w) (g := g) (.nil n) (k := k) (by omega)
    rwa [Nat.zero_add] at hrun
  have hgrow {add : Nat → Nat → List Nat → List Nat} (ha : AddsNew add) :
      Picks n k (growSample add (n - k) k [] g).1 := by
    have hrun := picks_growSample ha (g := g) (.nil (n - k)) (k := k)
    rwa [Nat.sub_add_cancel hk, Nat.zero_add] at hrun
  unfold sampleIndices
  split
  · exact hcollect words64
  · split
    · refine picks_take ?_ hk
      rw [← Array.toList_range]
      exact (swapForward_perm 0 k (Array.range n) g).toList
    · split
      · exact hgrow addsNew_insertNew
      · split
        · exact (hgrow addsNew_appendNew).perm (shuffle_perm _ _)
        · exact hcollect words32

section

variable {α : Type} (k : Nat) (xs : List α) (g : Generator)

lemma filterMap_range_getElem? : (List.range xs.length).filterMap (fun i => xs[i]?) = xs := by
  induction xs with
  | nil => rfl
  | cons x xs ih =>
    rw [List.length_cons, List.range_succ_eq_map, List.filterMap_cons, List.filterMap_map]
    exact congrArg (x :: ·) ih

theorem length_sample : (sample k xs g).1.length = min k xs.length := by
  have hpicks := picks_sampleIndices (Nat.min_le_right k xs.length) g
  rw [← hpicks.length_eq]
  refine List.filterMap_length_eq_length.mpr fun i hi => ?_
  rw [List.getElem?_eq_getElem (hpicks.lt i hi)]
  rfl

/-- **A sample has each element of the list at most as often as the list has it.** -/
theorem subperm_sample : (sample k xs g).1.Subperm xs := by
  obtain ⟨is, hperm, hsub⟩ := (picks_sampleIndices (Nat.min_le_right k xs.length) g).subperm_range
  refine ⟨is.filterMap fun i => xs[i]?, hperm.filterMap _, ?_⟩
  have hall := hsub.filterMap fun i => xs[i]?
  rwa [filterMap_range_getElem?] at hall

theorem nodup_sample (h : xs.Nodup) : (sample k xs g).1.Nodup := by
  obtain ⟨ys, hperm, hsub⟩ := subperm_sample k xs g
  exact hperm.nodup_iff.mp (h.sublist hsub)

/-- A sample of all elements is the list in another order. -/
theorem sample_perm (h : xs.length ≤ k) : (sample k xs g).1.Perm xs := by
  refine (subperm_sample k xs g).perm_of_length_le ?_
  rw [length_sample]
  omega

end

end NoteMuse.Random
