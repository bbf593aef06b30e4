import NoteMuse.Proofs.Distinct
import NoteMuse.Vault

/-!
Every list that answers a question about a vault names notes of the vault only.
-/

namespace NoteMuse.Vault

variable {v : Vault} {t u : String}

theorem mem_titles : t ∈ v.titles ↔ t ∈ v.notes := Std.ExtTreeMap.mem_keys

theorem nodup_titles (v : Vault) : v.titles.Nodup := Std.ExtTreeMap.nodup_keys

theorem length_titles (v : Vault) : v.titles.length = v.noteCount := Std.ExtTreeMap.length_keys

theorem titles_eq (v : Vault) : v.titles = v.notes.toList.map Prod.fst :=
  Std.ExtTreeMap.map_fst_toList_eq_keys.symm

theorem fst_mem_titles {p : String × Indexed} (h : p ∈ v.notes.toList) : p.1 ∈ v.titles := by
  rw [titles_eq]
  exact List.mem_map_of_mem h

theorem note?_of_mem_toList {p : String × Indexed} (h : p ∈ v.notes.toList) :
    v.note? p.1 = some p.2.note := by
  rw [note?, Std.ExtTreeMap.mem_toList_iff_getElem?_eq_some.mp h]
  rfl

/-! ### Links -/

/-- The note with the first title links to another note of the vault, the one with the second title. -/
def Linked (v : Vault) (t u : String) : Prop := t ≠ u ∧ u ∈ v.titles ∧ ∃ n, v.note? t = some n ∧ u ∈ n.links

theorem mem_titles_of_note? {n : Note} (h : v.note? t = some n) : t ∈ v.titles := by
  obtain ⟨x, hx, -⟩ := Option.map_eq_some_iff.mp h
  rw [mem_titles, Std.ExtTreeMap.mem_iff_isSome_getElem?, hx]
  rfl

theorem Linked.mem_titles (h : v.Linked t u) : t ∈ v.titles := by
  obtain ⟨-, -, n, hn, -⟩ := h
  exact mem_titles_of_note? hn

/-- **The links that lead out of a note** are those to other notes of the vault. -/
theorem mem_outgoing : u ∈ v.outgoing t ↔ v.Linked t u := by
  unfold outgoing Linked
  cases hn : v.note? t with
  | none => simp
  | some n =>
    simp only [mem_distinct, List.mem_filter, Bool.and_eq_true, Std.ExtTreeMap.contains_iff_mem, ← mem_titles,
      decide_eq_true_eq, Option.some.injEq]
    constructor
    · rintro ⟨hlink, hu, hne⟩
      exact ⟨Ne.symm hne, hu, n, rfl, hlink⟩
    · rintro ⟨hne, hu, n', rfl, hlink⟩
      exact ⟨hlink, hu, Ne.symm hne⟩

theorem outgoing_subset (v : Vault) (title : String) : v.outgoing title ⊆ v.titles := by
  intro u hu
  obtain ⟨-, hmem, -⟩ := mem_outgoing.mp hu
  exact hmem

theorem mem_edges : (t, u) ∈ v.edges ↔ t ∈ v.titles ∧ u ∈ v.outgoing t := by
  unfold edges
  simp only [List.mem_flatMap, List.mem_map, Prod.mk.injEq]
  constructor
  · rintro ⟨s, hs, w, hw, rfl, rfl⟩
    exact ⟨hs, hw⟩
  · rintro ⟨ht, hu⟩
    exact ⟨t, ht, u, hu, rfl, rfl⟩

theorem orphans_subset (v : Vault) : v.orphans ⊆ v.titles := fun _ h => (List.mem_filter.mp h).1

/-! ### Rankings -/

section Ranking

variable {α : Type} (before : α → α → Bool) (k : Nat)

theorem rank_subset (xs : List (α × String)) : rank before k xs ⊆ xs.map Prod.snd :=
  List.map_subset _ fun _ hp => List.mem_mergeSort.mp (List.mem_of_mem_take hp)

theorem rank_subset_titles {xs : List (α × String)} (h : ∀ p ∈ xs, p.2 ∈ v.titles) :
    rank before k xs ⊆ v.titles := by
  intro t ht
  obtain ⟨p, hp, rfl⟩ := List.mem_map.mp (rank_subset before k xs ht)
  exact h p hp

end Ranking

variable (v) (k : Nat)

theorem hubs_subset : v.hubs k ⊆ v.titles := by
  unfold hubs counted
  refine rank_subset_titles _ k fun p hp => ?_
  obtain ⟨t, ht, rfl⟩ := List.mem_map.mp (List.mem_filter.mp hp).1
  exact ht

theorem snd_mem_titles_of_mem_dated {p : Int × String} (h : p ∈ v.dated) : p.2 ∈ v.titles := by
  obtain ⟨q, hq, rfl⟩ := List.mem_map.mp h
  exact fst_mem_titles hq

theorem recent_subset : v.recent k ⊆ v.titles :=
  rank_subset_titles _ k fun _ => v.snd_mem_titles_of_mem_dated

theorem oldest_subset : v.oldest k ⊆ v.titles :=
  rank_subset_titles _ k fun _ => v.snd_mem_titles_of_mem_dated

theorem tagged_subset (tag : String) : v.tagged tag ⊆ v.titles := by
  intro t ht
  obtain ⟨p, hp, rfl⟩ := List.mem_map.mp ht
  exact fst_mem_titles (List.mem_filter.mp hp).1

theorem ne_of_mem_neighbours {title u : String} (h : u ∈ v.neighbours title k) : u ≠ title := by
  unfold neighbours at h
  split at h
  · cases h
  · obtain ⟨p, hp, rfl⟩ := List.mem_map.mp (rank_subset _ k _ h)
    obtain ⟨q, hq, rfl⟩ := List.mem_map.mp (List.mem_filter.mp hp).1
    simpa using (List.mem_filter.mp hq).2

theorem neighbours_subset (title : String) : v.neighbours title k ⊆ v.titles := by
  unfold neighbours
  split
  · exact List.nil_subset _
  · refine rank_subset_titles _ k fun p hp => ?_
    obtain ⟨q, hq, rfl⟩ := List.mem_map.mp (List.mem_filter.mp hp).1
    exact fst_mem_titles (List.mem_filter.mp hq).1

end NoteMuse.Vault
