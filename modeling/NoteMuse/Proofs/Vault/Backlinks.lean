import Mathlib.Combinatorics.Enumerative.DoubleCounting
import NoteMuse.Proofs.Ordered
import NoteMuse.Proofs.Vault.Notes

/-!
Links from both sides. The links that lead out of a note are looked up in its text, those that lead to it have been
gathered into an index, note by note; both tell of the same links, so that over the whole vault there are as many of
the ones as of the others. Main statements: `backlinks_eq`, `links_two_sided`.
-/

namespace NoteMuse

/-! ### The index of links -/

namespace LinkIndex

theorem sources_addSource (index : LinkIndex) (source target title : String) :
    (addSource source index target).sources title =
      if target = title ∧ source ∉ index.sources title then index.sources title ++ [source]
      else index.sources title := by
  unfold addSource
  by_cases hmem : source ∈ index.sources target
  · rw [if_pos hmem, if_neg]
    rintro ⟨rfl, hnot⟩
    exact hnot hmem
  · rw [if_neg hmem]
    unfold sources at *
    rw [Std.ExtTreeMap.getD_insert]
    by_cases ht : target = title
    · subst ht
      simp [hmem]
    · have hne : compare target title ≠ .eq := fun hc => ht (Std.LawfulEqCmp.eq_of_compare hc)
      rw [if_neg hne, if_neg (fun h => ht h.1)]

/-- A note is added to the sources of each title that it links to, and only once. -/
theorem sources_foldl_addSource (index : LinkIndex) (source : String) (targets : List String) (title : String) :
    (targets.foldl (addSource source) index).sources title =
      if title ∈ targets ∧ source ∉ index.sources title then index.sources title ++ [source]
      else index.sources title := by
  induction targets generalizing index with
  | nil => simp
  | cons target targets ih =>
    rw [List.foldl_cons, ih, sources_addSource]
    by_cases hmem : source ∈ index.sources title
    · simp [hmem]
    · by_cases ht : target = title
      · subst ht
        simp [hmem]
      · simp [hmem, ht, Ne.symm ht]

variable {notes : Std.ExtTreeMap String Indexed}

def targets (notes : Std.ExtTreeMap String Indexed) (p : String × Indexed) : List String :=
  p.2.note.links.filter fun t => notes.contains t && t ≠ p.1

/-- The notes are gone through in the order of their titles, which is therefore the order of the sources. -/
theorem sources_foldl_addNote (notes : Std.ExtTreeMap String Indexed) (title : String)
    {ps : List (String × Indexed)} (index : LinkIndex) (hps : ps.Pairwise fun p q => p.1 < q.1)
    (hnew : ∀ p ∈ ps, p.1 ∉ index.sources title) :
    (ps.foldl (fun index p => addNote notes index p.1 p.2) index).sources title =
      index.sources title ++ (ps.filter fun p => title ∈ targets notes p).map Prod.fst := by
  induction ps generalizing index with
  | nil => simp
  | cons p ps ih =>
    -- each title is larger than those before it, so no note is among the sources already
    obtain ⟨hp, hps⟩ := List.pairwise_cons.mp hps
    obtain ⟨hpnew, hnew⟩ := List.forall_mem_cons.mp hnew
    have hadd : (addNote notes index p.1 p.2).sources title =
        if title ∈ targets notes p then index.sources title ++ [p.1] else index.sources title := by
      unfold addNote
      rw [sources_foldl_addSource]
      exact if_congr (and_iff_left hpnew) rfl rfl
    rw [List.foldl_cons, ih _ hps]
    · rw [hadd]
      by_cases ht : title ∈ targets notes p
      · rw [if_pos ht, List.filter_cons_of_pos (by simpa using ht), List.map_cons, List.append_assoc]
        rfl
      · rw [if_neg ht, List.filter_cons_of_neg (by simpa using ht)]
    · intro q hq
      rw [hadd]
      split
      · rw [List.mem_append, List.mem_singleton, not_or]
        exact ⟨hnew q hq, fun he => String.lt_irrefl _ (he ▸ hp q hq)⟩
      · exact hnew q hq

theorem sources_map (index : LinkIndex) {f : List String → List String} (hf : f [] = []) (title : String) :
    sources (index.map fun _ s => f s) title = f (index.sources title) := by
  unfold sources
  rw [Std.ExtTreeMap.getD_map, Std.ExtTreeMap.getD_eq_getD_getElem?]
  cases index[title]? <;> simp [hf]

/-- **The sources of the links to a title**, ascending. -/
theorem sources_ofNotes (notes : Std.ExtTreeMap String Indexed) (title : String) :
    (ofNotes notes).sources title = (notes.toList.filter fun p => title ∈ targets notes p).map Prod.fst := by
  have hgathered := sources_foldl_addNote notes title ∅ (toList_pairwise notes) (by simp [sources])
  unfold ofNotes
  rw [sources_map _ List.mergeSort_nil, Std.ExtTreeMap.foldl_eq_foldl_toList, hgathered]
  simp only [sources, Std.ExtTreeMap.getD_empty, List.nil_append]
  refine List.mergeSort_of_pairwise (List.pairwise_map.mpr ?_)
  exact ((toList_pairwise notes).filter _).imp fun h => decide_eq_true (Std.le_of_lt h)

end LinkIndex

namespace Vault

variable {v : Vault} {t u : String}

/-! ### Both sides -/

theorem titles_pairwise (v : Vault) : v.titles.Pairwise (· < ·) := by
  rw [titles_eq]
  exact List.pairwise_map.mpr (toList_pairwise v.notes)

/-- **The notes that link to a note** are those among whose links it is. -/
theorem backlinks_eq (v : Vault) (t : String) : v.backlinks t = v.titles.filter fun s => t ∈ v.outgoing s := by
  rw [backlinks, v.index_eq, LinkIndex.sources_ofNotes, titles_eq, List.filter_map]
  refine congrArg (List.map Prod.fst) (List.filter_congr fun p hp => ?_)
  simp [LinkIndex.targets, outgoing, note?_of_mem_toList hp, mem_distinct]

theorem mem_backlinks : t ∈ v.backlinks u ↔ v.Linked t u := by
  rw [backlinks_eq, List.mem_filter, decide_eq_true_eq, mem_outgoing]
  exact and_iff_right_of_imp Linked.mem_titles

theorem backlinks_pairwise (v : Vault) (t : String) : (v.backlinks t).Pairwise (· < ·) := by
  rw [backlinks_eq]
  exact v.titles_pairwise.filter _

theorem nodup_backlinks (v : Vault) (t : String) : (v.backlinks t).Nodup := by
  rw [backlinks_eq]
  exact v.nodup_titles.filter _

/-- The links that lead out of a note are in the order in which the note mentions them first. -/
theorem outgoing_pairwise {n : Note} (h : v.note? t = some n) :
    (v.outgoing t).Pairwise fun a b => n.links.idxOf a < n.links.idxOf b := by
  unfold outgoing
  rw [h]
  simp only [distinct_filter]
  exact (distinct_pairwise n.links).filter _

theorem nodup_outgoing (v : Vault) (t : String) : (v.outgoing t).Nodup := by
  unfold outgoing
  split
  · exact List.nodup_nil
  · exact nodup_distinct _

/-! ### Notes without links -/

theorem mem_orphans : t ∈ v.orphans ↔ t ∈ v.titles ∧ ∀ u, ¬v.Linked t u ∧ ¬v.Linked u t := by
  unfold orphans
  simp only [List.mem_filter, Bool.and_eq_true, List.isEmpty_iff, List.eq_nil_iff_forall_not_mem, mem_outgoing,
    mem_backlinks, forall_and]

theorem orphans_pairwise (v : Vault) : v.orphans.Pairwise (· < ·) := v.titles_pairwise.filter _

/-! ### All links -/

/-- The titles without backlinks, which are not ranked, count for nothing. -/
theorem sum_counted (v : Vault) :
    (v.counted.map Prod.fst).sum = (v.titles.map fun t => (v.backlinks t).length).sum := by
  unfold counted
  induction v.titles with
  | nil => rfl
  | cons t ts ih =>
    rw [List.map_cons, List.map_cons, List.sum_cons, ← ih]
    by_cases hpos : 0 < (v.backlinks t).length
    · rw [List.filter_cons_of_pos (by simpa using hpos), List.map_cons, List.sum_cons]
    · rw [List.filter_cons_of_neg (by simpa using hpos), Nat.eq_zero_of_not_pos hpos, Nat.zero_add]

/-- **There are as many links to the notes of a vault as there are from them.** -/
theorem sum_backlinks (v : Vault) :
    (v.titles.map fun t => (v.backlinks t).length).sum = (v.titles.map fun t => (v.outgoing t).length).sum := by
  have htitles := v.nodup_titles
  have hto : ∀ t ∈ v.titles.toFinset, (v.backlinks t).length =
      (v.titles.toFinset.bipartiteBelow (fun s u => u ∈ v.outgoing s) t).card := by
    intro t _
    rw [← List.toFinset_card_of_nodup (v.nodup_backlinks t)]
    refine congrArg Finset.card (Finset.ext fun s => ?_)
    rw [Finset.mem_bipartiteBelow, List.mem_toFinset, List.mem_toFinset, backlinks_eq, List.mem_filter,
      decide_eq_true_eq]
  have hfrom : ∀ s ∈ v.titles.toFinset, (v.outgoing s).length =
      (v.titles.toFinset.bipartiteAbove (fun s u => u ∈ v.outgoing s) s).card := by
    intro s _
    rw [← List.toFinset_card_of_nodup (v.nodup_outgoing s)]
    refine congrArg Finset.card (Finset.ext fun u => ?_)
    rw [Finset.mem_bipartiteAbove, List.mem_toFinset, List.mem_toFinset]
    exact (and_iff_right_of_imp fun hu => v.outgoing_subset s hu).symm
  rw [← List.sum_toFinset _ htitles, ← List.sum_toFinset _ htitles, Finset.sum_congr rfl hto, Finset.sum_congr rfl hfrom]
  exact (Finset.sum_card_bipartiteAbove_eq_sum_card_bipartiteBelow _).symm

/-! ### Vaults of notes -/

/-- The last of the notes with the first title links to the second title, which another note has. -/
structure LinkedAmong (ns : List Note) (a b : String) : Prop where
  ne : a ≠ b
  source : a ∈ (ofNotes ns).titles
  target : b ∈ (ofNotes ns).titles
  link : ∃ n, lastTitled ns a = some n ∧ b ∈ n.links

theorem linked_ofNotes_iff {ns : List Note} {a b : String} : (ofNotes ns).Linked a b ↔ LinkedAmong ns a b := by
  constructor
  · intro h
    obtain ⟨hne, hb, hlink⟩ := id h
    exact ⟨hne, h.mem_titles, hb, by simpa only [note?_ofNotes] using hlink⟩
  · rintro ⟨hne, -, hb, hlink⟩
    exact ⟨hne, hb, by simpa only [note?_ofNotes] using hlink⟩

/-- What a vault tells of the links between its notes. -/
structure TellsLinks (ns : List Note) (v : Vault) : Prop where
  titles : ∀ t, t ∈ v.titles ↔ ∃ n ∈ ns, n.title = t
  outgoing : ∀ a b, b ∈ v.outgoing a ↔ LinkedAmong ns a b
  backlinks : ∀ a b, a ∈ v.backlinks b ↔ LinkedAmong ns a b
  once : ∀ a, (v.outgoing a).Nodup
  /-- The links out of a note are in the order of their first mention. -/
  mentioned : ∀ a n, lastTitled ns a = some n →
    (v.outgoing a).Pairwise fun b c => n.links.idxOf b < n.links.idxOf c
  ascending : ∀ b, (v.backlinks b).Pairwise (· < ·)
  orphans : ∀ t, t ∈ v.orphans ↔ t ∈ v.titles ∧ ∀ u, ¬LinkedAmong ns t u ∧ ¬LinkedAmong ns u t
  orphans_ascending : v.orphans.Pairwise (· < ·)
  /-- The numbers by which hubs are ranked. -/
  balanced : (v.counted.map Prod.fst).sum = (v.titles.map fun t => (v.outgoing t).length).sum

/-- **The links between notes are the same from both sides**, whatever notes there are: some may be replaced by
later ones, some may link to themselves or to titles that no note has. -/
theorem links_two_sided (ns : List Note) : TellsLinks ns (ofNotes ns) where
  titles := fun _ => mem_titles_ofNotes
  outgoing := fun a b => mem_outgoing.trans linked_ofNotes_iff
  backlinks := fun a b => mem_backlinks.trans linked_ofNotes_iff
  once := nodup_outgoing _
  mentioned := fun a n h => outgoing_pairwise ((note?_ofNotes ns a).trans h)
  ascending := backlinks_pairwise _
  orphans := fun t => by simp only [mem_orphans, linked_ofNotes_iff]
  orphans_ascending := orphans_pairwise _
  balanced := (sum_counted _).trans (sum_backlinks _)

end Vault

end NoteMuse
