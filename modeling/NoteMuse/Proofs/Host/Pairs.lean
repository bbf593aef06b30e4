import NoteMuse.Proofs.Host.Builtin

/-!
Which pairs of notes can be drawn from a vault: a note and one that it links to, and a note and one of its closest
neighbours that it does not link to. A pair is drawn whenever there is one. Main statement: `pairs_exact`.
-/

namespace NoteMuse.Host.Builtin

open NoteMuse.Random

variable {v : Vault} {args : List Arg} {g : Generator} {t u : String}

def pairOf (t u : String) : Value := .cluster [Link.wrap t, Link.wrap u]

/-- The outcome is the pair of two notes that are related, when there are such notes, and else this error. -/
def DrawsPair (related : String → String → Prop) (e : FunctionError) (r : Except FunctionError Value) : Prop :=
  (∃ t u, related t u ∧ r = .ok (pairOf t u)) ∨ (¬∃ t u, related t u) ∧ r = .error e

theorem DrawsPair.ok_iff {related : String → String → Prop} {e : FunctionError} {r : Except FunctionError Value}
    (h : DrawsPair related e r) : (∃ t u, r = .ok (pairOf t u) ∧ related t u) ↔ ∃ t u, related t u := by
  constructor
  · rintro ⟨t, u, -, htu⟩
    exact ⟨t, u, htu⟩
  · intro hsome
    obtain ⟨t, u, htu, hr⟩ | ⟨hnone, -⟩ := h
    · exact ⟨t, u, hr, htu⟩
    · exact absurd hsome hnone

theorem DrawsPair.error_iff {related : String → String → Prop} {e : FunctionError} {r : Except FunctionError Value}
    (h : DrawsPair related e r) : r = .error e ↔ ¬∃ t u, related t u := by
  obtain ⟨t, u, htu, rfl⟩ | ⟨hnone, rfl⟩ := h
  · simp only [reduceCtorEq, false_iff, not_not]
    exact ⟨t, u, htu⟩
  · simp only [true_iff]
    exact hnone

/-! ### Linked notes -/

theorem drawsPair_linked (v : Vault) (args : List Arg) (g : Generator) :
    DrawsPair v.Linked (.failed "vault.linked_pair" "vault has no links") (outcome v "vault.linked_pair" args g) := by
  rw [outcome_eq (f := linkedPair) rfl]
  unfold linkedPair
  rw [draw_bind]
  cases hp : (choose? v.edges g).1 with
  | none =>
    refine .inr ⟨?_, rfl⟩
    rintro ⟨t, u, h⟩
    have hmem : (t, u) ∈ v.edges := Vault.mem_edges.mpr ⟨h.mem_titles, Vault.mem_outgoing.mpr h⟩
    rw [choose?_eq_none_iff.mp hp] at hmem
    exact absurd hmem List.not_mem_nil
  | some p =>
    obtain ⟨t, u⟩ := p
    obtain ⟨-, hu⟩ := Vault.mem_edges.mp (choose?_mem hp)
    exact .inl ⟨t, u, Vault.mem_outgoing.mp hu, rfl⟩

/-! ### Similar notes -/

/-- The second note is one of the closest neighbours of the first, which does not link to it. -/
def Similar (v : Vault) (t u : String) : Prop := t ∈ v.titles ∧ u ∈ v.neighbours t 3 ∧ u ∉ v.outgoing t

theorem mem_unlinkedNeighbours : u ∈ unlinkedNeighbours v t ↔ u ∈ v.neighbours t 3 ∧ u ∉ v.outgoing t := by
  simp [unlinkedNeighbours, neighbourPool]

/-- The search passes over all titles exactly when none of them has an unlinked neighbour. -/
theorem firstPair?_eq_none_iff {titles : List String} :
    (firstPair? v titles g).1 = none ↔ ∀ t ∈ titles, unlinkedNeighbours v t = [] := by
  induction titles generalizing g with
  | nil => exact iff_of_true rfl (by simp)
  | cons t titles ih =>
    unfold firstPair?
    simp only
    split
    · next hempty => rw [ih, List.forall_mem_cons, and_iff_right (List.isEmpty_iff.mp hempty)]
    · next hne =>
      have hpool : unlinkedNeighbours v t ≠ [] := mt List.isEmpty_iff.mpr hne
      have hlt := below64_lt (List.length_pos_iff.mpr hpool) g
      constructor
      -- the place that is drawn lies within the list, so the search ends here
      · intro hnone
        have hplace : (unlinkedNeighbours v t)[(below64 (unlinkedNeighbours v t).length g).1]? = none :=
          Option.map_eq_none_iff.mp hnone
        rw [List.getElem?_eq_none_iff] at hplace
        omega
      · intro hall
        exact absurd (hall t (List.mem_cons_self ..)) hpool

theorem drawsPair_similar (v : Vault) (args : List Arg) (g : Generator) :
    DrawsPair (Similar v) (.failed "vault.similar_pair" "vault has no similar unlinked notes")
      (outcome v "vault.similar_pair" args g) := by
  have hperm := shuffle_perm v.titles g
  rw [outcome_eq (f := similarPair) rfl]
  unfold similarPair
  rw [draw_bind, draw_bind]
  cases hp : (firstPair? v (shuffle v.titles g).1 (shuffle v.titles g).2).1 with
  | none =>
    refine .inr ⟨?_, rfl⟩
    rintro ⟨t, u, ht, hu⟩
    have hnone := firstPair?_eq_none_iff.mp hp t (hperm.mem_iff.mpr ht)
    rw [← mem_unlinkedNeighbours, hnone] at hu
    exact absurd hu List.not_mem_nil
  | some p =>
    obtain ⟨t, u⟩ := p
    obtain ⟨ht, hu⟩ := mem_of_firstPair? hp
    exact .inl ⟨t, u, ⟨hperm.mem_iff.mp ht, mem_unlinkedNeighbours.mp hu⟩, rfl⟩

theorem not_exists_similar_iff :
    (¬∃ t u, Similar v t u) ↔ ∀ t ∈ v.titles, v.neighbours t 3 ⊆ v.outgoing t := by
  unfold Similar
  constructor
  · intro hnone t ht u hu
    by_contra hout
    exact hnone ⟨t, u, ht, hu, hout⟩
  · rintro hall ⟨t, u, ht, hu, hout⟩
    exact hout (hall t ht hu)

/-! ### Both -/

/-- **Which pairs are drawn.** A pair of linked notes is one where the first note links to the second and another
note of the vault, and the call fails exactly when no note of the vault links to another one. A pair of similar notes
is one where the second is among the three closest neighbours of the first and not among its links, and the call
fails exactly when every note links to all of its three closest neighbours. -/
theorem pairs_exact (v : Vault) (args : List Arg) (g : Generator) :
    ((∃ t u, outcome v "vault.linked_pair" args g = .ok (.cluster [Link.wrap t, Link.wrap u]) ∧
        u ∈ v.outgoing t ∧ t ≠ u ∧ t ∈ v.titles ∧ u ∈ v.titles) ↔ ∃ t u, v.Linked t u) ∧
    (outcome v "vault.linked_pair" args g = .error (.failed "vault.linked_pair" "vault has no links") ↔
      ¬∃ t u, v.Linked t u) ∧
    ((∃ t u, outcome v "vault.similar_pair" args g = .ok (.cluster [Link.wrap t, Link.wrap u]) ∧
        u ∈ v.neighbours t 3 ∧ u ∉ v.outgoing t ∧ t ≠ u ∧ t ∈ v.titles ∧ u ∈ v.titles) ↔
      ¬∀ t ∈ v.titles, v.neighbours t 3 ⊆ v.outgoing t) ∧
    (outcome v "vault.similar_pair" args g =
        .error (.failed "vault.similar_pair" "vault has no similar unlinked notes") ↔
      ∀ t ∈ v.titles, v.neighbours t 3 ⊆ v.outgoing t) := by
  have hlinked := drawsPair_linked v args g
  have hsimilar := drawsPair_similar v args g
  refine ⟨?_, hlinked.error_iff, ?_, ?_⟩
  · rw [← hlinked.ok_iff]
    refine exists_congr fun t => exists_congr fun u => and_congr_right fun _ => ?_
    rw [Vault.mem_outgoing]
    exact ⟨fun h => h.1, fun h => ⟨h, h.1, h.mem_titles, h.2.1⟩⟩
  · rw [← not_exists_similar_iff, not_not, ← hsimilar.ok_iff]
    refine exists_congr fun t => exists_congr fun u => and_congr_right fun _ => ?_
    constructor
    · rintro ⟨hu, hout, -, ht, -⟩
      exact ⟨ht, hu, hout⟩
    · rintro ⟨ht, hu, hout⟩
      exact ⟨hu, hout, Ne.symm (v.ne_of_mem_neighbours 3 hu), ht, v.neighbours_subset 3 t hu⟩
  · rw [← not_exists_similar_iff]
    exact hsimilar.error_iff

end NoteMuse.Host.Builtin
