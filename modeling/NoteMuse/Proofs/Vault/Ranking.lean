import Mathlib.Data.Int.Order.Basic
import Mathlib.Data.Nat.Basic
import Mathlib.Order.RelClasses
import NoteMuse.Proofs.Vault.Titles

/-!
Rankings: the first titles in a strict order without ties, the same for every number of places. Notes are ranked by
the number of the notes that link to them and by the times of their changes, and where these are equal by their
titles. Main statement: `rankings_exact`.
-/

namespace NoteMuse.Vault

/-! ### Rankings in general -/

/-- The answers for all numbers of places rank the eligible titles. -/
structure Ranks (before : String → String → Prop) (eligible : List String) (answer : Nat → List String) : Prop where
  length_eq : ∀ k, (answer k).length = min k eligible.length
  subset : ∀ k, answer k ⊆ eligible
  nodup : ∀ k, (answer k).Nodup
  ordered : ∀ k, (answer k).Pairwise before
  /-- What is left out comes after what is not. -/
  left_out : ∀ k, ∀ t ∈ answer k, ∀ u ∈ eligible, u ∉ answer k → before t u
  grows : ∀ k l, k ≤ l → answer k <+: answer l

section Ranks

variable {before : String → String → Prop} {eligible sorted : List String}

theorem ranks_take (hperm : sorted.Perm eligible) (hnodup : eligible.Nodup) (hsorted : sorted.Pairwise before) :
    Ranks before eligible fun k => sorted.take k where
  length_eq := fun k => by rw [List.length_take, hperm.length_eq]
  subset := fun k _ ht => hperm.subset (List.mem_of_mem_take ht)
  nodup := fun k => (hperm.nodup_iff.mpr hnodup).sublist (List.take_sublist _ _)
  ordered := fun k => hsorted.sublist (List.take_sublist _ _)
  left_out := by
    intro k t ht u hu hout
    have hmem : u ∈ sorted.take k ++ sorted.drop k := by
      rw [List.take_append_drop]
      exact hperm.mem_iff.mpr hu
    have hcut : (sorted.take k ++ sorted.drop k).Pairwise before := by rwa [List.take_append_drop]
    obtain ⟨-, -, hcross⟩ := List.pairwise_append.mp hcut
    exact hcross t ht u ((List.mem_append.mp hmem).resolve_left hout)
  grows := fun k l h => List.take_prefix_take_left h

end Ranks

/-! ### Keys and titles -/

section Keys

variable {α : Type} (r : α → α → Prop)

/-- The first entry has the better key, or the smaller title where the keys are equal. -/
def Outranks (p q : α × String) : Prop := r p.1 q.1 ∨ p.1 = q.1 ∧ p.2 < q.2

variable [DecidableRel r]

abbrev sorts (p q : α × String) : Bool := decide (r p.1 q.1) || (!decide (r q.1 p.1) && decide (p.2 ≤ q.2))

variable {r} [IsStrictTotalOrder α r]

theorem sorts_iff {p q : α × String} : sorts r p q = true ↔ r p.1 q.1 ∨ p.1 = q.1 ∧ p.2 ≤ q.2 := by
  simp only [Bool.or_eq_true, Bool.and_eq_true, Bool.not_eq_true', decide_eq_true_eq, decide_eq_false_iff_not]
  rcases trichotomous_of r p.1 q.1 with h | h | h
  · simp [h]
  · simp [h, irrefl_of r q.1]
  · have hnot : ¬r p.1 q.1 := asymm_of r h
    have hne : p.1 ≠ q.1 := fun he => irrefl_of r q.1 (he ▸ h)
    simp [h, hnot, hne]

theorem sorts_trans (p q s : α × String) (hpq : sorts r p q = true) (hqs : sorts r q s = true) :
    sorts r p s = true := by
  rw [sorts_iff] at *
  rcases hpq with hpq | ⟨he, ht⟩ <;> rcases hqs with hqs | ⟨he', ht'⟩
  · exact .inl (trans_of r hpq hqs)
  · exact .inl (he' ▸ hpq)
  · exact .inl (he ▸ hqs)
  · exact .inr ⟨he.trans he', String.le_trans ht ht'⟩

theorem sorts_total (p q : α × String) : (sorts r p q || sorts r q p) = true := by
  rw [Bool.or_eq_true, sorts_iff, sorts_iff]
  rcases trichotomous_of r p.1 q.1 with h | h | h
  · exact .inl (.inl h)
  · exact (String.le_total p.2 q.2).imp (fun ht => .inr ⟨h, ht⟩) fun ht => .inr ⟨h.symm, ht⟩
  · exact .inr (.inl h)

/-- Entries with distinct titles are sorted without ties. -/
theorem pairwise_outranks {xs : List (α × String)} (h : (xs.map Prod.snd).Nodup) :
    (xs.mergeSort (sorts r)).Pairwise (Outranks r) := by
  have hsorted : (xs.mergeSort (sorts r)).Pairwise fun p q => sorts r p q = true :=
    List.pairwise_mergeSort sorts_trans sorts_total xs
  have hdistinct : (xs.mergeSort (sorts r)).Pairwise fun p q => p.2 ≠ q.2 :=
    List.pairwise_map.mp (((List.mergeSort_perm xs _).map Prod.snd).nodup_iff.mpr h)
  refine (hsorted.and hdistinct).imp fun ⟨hle, hne⟩ => ?_
  exact (sorts_iff.mp hle).imp_right fun ⟨hkey, htitle⟩ => ⟨hkey, Std.lt_of_le_of_ne htitle hne⟩

/-- **Ranking by keys and titles** is ranking without ties, where titles are distinct. -/
theorem ranks_rank {before : String → String → Prop} {xs : List (α × String)} (h : (xs.map Prod.snd).Nodup)
    (hbefore : ∀ p ∈ xs, ∀ q ∈ xs, Outranks r p q → before p.2 q.2) :
    Ranks before (xs.map Prod.snd) fun k => rank (fun a b => decide (r a b)) k xs := by
  have hperm := List.mergeSort_perm xs (sorts r)
  have hsorted : ((xs.mergeSort (sorts r)).map Prod.snd).Pairwise before := by
    refine List.pairwise_map.mpr ((pairwise_outranks h).imp_of_mem fun hp hq hlt => ?_)
    exact hbefore _ (hperm.mem_iff.mp hp) _ (hperm.mem_iff.mp hq) hlt
  simpa only [rank, List.map_take] using ranks_take (hperm.map Prod.snd) h hsorted

end Keys

/-! ### Notes -/

section Notes

variable (v : Vault)

/-- More notes link to the first note than to the second, or as many, and its title is the smaller one. -/
def MoreLinked (t u : String) : Prop :=
  (v.backlinks u).length < (v.backlinks t).length ∨
    (v.backlinks t).length = (v.backlinks u).length ∧ t < u

/-- The first note was changed before the second, in an order of times, or at the same time, and its title is the
smaller one. -/
def ChangedFirst (before : Int → Int → Prop) (t u : String) : Prop :=
  ∃ m n, v.note? t = some m ∧ v.note? u = some n ∧
    (before m.modified n.modified ∨ m.modified = n.modified ∧ t < u)

theorem map_snd_counted : v.counted.map Prod.snd = v.titles.filter fun t => v.backlinks t ≠ [] := by
  unfold counted
  rw [List.filter_map, List.map_map]
  have hid : (Prod.snd ∘ fun t => ((v.backlinks t).length, t)) = id := rfl
  rw [hid, List.map_id]
  refine List.filter_congr fun t _ => ?_
  simp [List.length_pos_iff]

theorem ranks_hubs : Ranks v.MoreLinked (v.titles.filter fun t => v.backlinks t ≠ []) v.hubs := by
  have hnodup : (v.counted.map Prod.snd).Nodup := by
    rw [map_snd_counted]
    exact v.nodup_titles.filter _
  have hcount : ∀ p ∈ v.counted, p.1 = (v.backlinks p.2).length := by
    intro p hp
    obtain ⟨t, -, rfl⟩ := List.mem_map.mp (List.mem_filter.mp hp).1
    rfl
  rw [← map_snd_counted]
  refine ranks_rank (r := fun m n => n < m) hnodup fun p hp q hq h => ?_
  unfold Outranks at h
  rwa [hcount p hp, hcount q hq] at h

theorem map_snd_dated : v.dated.map Prod.snd = v.titles := by
  rw [dated, titles_eq, List.map_map]
  rfl

theorem ranks_dated (before : Int → Int → Prop) [DecidableRel before] [IsStrictTotalOrder Int before] :
    Ranks (v.ChangedFirst before) v.titles fun k => rank (fun s t => decide (before s t)) k v.dated := by
  have hnote : ∀ p ∈ v.dated, ∃ n, v.note? p.2 = some n ∧ n.modified = p.1 := by
    intro p hp
    obtain ⟨x, hx, rfl⟩ := List.mem_map.mp hp
    exact ⟨x.2.note, note?_of_mem_toList hx, rfl⟩
  rw [← map_snd_dated]
  refine ranks_rank (by rw [map_snd_dated]; exact v.nodup_titles) fun p hp q hq h => ?_
  obtain ⟨m, hm, hmp⟩ := hnote p hp
  obtain ⟨n, hn, hnq⟩ := hnote q hq
  refine ⟨m, n, hm, hn, ?_⟩
  rwa [hmp, hnq]

/-- **Rankings of notes** have no ties: the notes with the most notes linking to them, those that were changed last
and those that were changed first. -/
theorem rankings_exact :
    Ranks v.MoreLinked (v.titles.filter fun t => v.backlinks t ≠ []) v.hubs ∧
    Ranks (v.ChangedFirst (· > ·)) v.titles v.recent ∧ Ranks (v.ChangedFirst (· < ·)) v.titles v.oldest :=
  ⟨v.ranks_hubs, v.ranks_dated (· > ·), v.ranks_dated (· < ·)⟩

end Notes

end NoteMuse.Vault
