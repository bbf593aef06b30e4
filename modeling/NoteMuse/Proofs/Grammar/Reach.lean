import Mathlib.Logic.Relation
import NoteMuse.Grammar.Reach
import NoteMuse.Proofs.Grammar.Rows
import NoteMuse.Proofs.Template.Nodes

/-!
What can be reached in a grammar. A symbol refers to a name when some alternative of it does, at any depth;
the search for the reachable symbols finds exactly those that a chain of references leads to. Main statement:
`mem_reachable`.
-/

namespace NoteMuse.Grammar

/-- An alternative of the symbol has a reference to the name, at the top or in an action, however deep. -/
def RefersTo (g : Grammar) (symbol name : String) : Prop :=
  ∃ as, g.alternatives? symbol = some as ∧
    ∃ a ∈ as, ∃ steps, (Segment.reference name steps).Within a.template

variable {g : Grammar} {symbol name : String}

theorem RefersTo.symbol_mem_names (h : g.RefersTo symbol name) : symbol ∈ g.names := by
  obtain ⟨as, has, -⟩ := h
  exact mem_names.mpr ⟨as, has⟩

theorem RefersTo.of_mem_nodes {as : List Alternative} (has : g.alternatives? symbol = some as)
    {a : Alternative} (ha : a ∈ as) {n : Segment} (hn : n ∈ a.template.nodes)
    (hname : name ∈ n.referenced?) : g.RefersTo symbol name := by
  cases n with
  | reference r steps =>
    cases hname
    exact ⟨as, has, a, ha, steps, Template.mem_nodes_iff.mp hn⟩
  | literal | call | action => cases hname

theorem mem_referencesOf : name ∈ g.referencesOf symbol ↔ g.RefersTo symbol name := by
  unfold referencesOf RefersTo
  simp only [List.mem_flatMap, Template.mem_references_iff, ← Template.mem_nodes_iff]
  cases g.alternatives? symbol with
  | none => simp
  | some as => simp

/-! ### The search -/

/-- What the search finds was found before, or a chain of references leads to it from a name that was still
to be looked at. -/
theorem reaches_of_mem_reachFrom {found todo : List String} (h : name ∈ g.reachFrom found todo) :
    name ∈ found ∨ ∃ s ∈ todo, Relation.ReflTransGen g.RefersTo s name := by
  fun_induction reachFrom g found todo with
  | case1 found => exact .inl h
  | case2 found s rest _ ih =>
    rcases ih h with hfound | ⟨r, hr, hreaches⟩
    · rcases List.mem_cons.mp hfound with rfl | hfound
      · exact .inr ⟨name, List.mem_cons_self .., .refl⟩
      · exact .inl hfound
    · rcases List.mem_append.mp hr with hr | hr
      · exact .inr ⟨s, List.mem_cons_self .., .head (mem_referencesOf.mp hr) hreaches⟩
      · exact .inr ⟨r, List.mem_cons_of_mem _ hr, hreaches⟩
  | case3 found s rest _ ih =>
    rcases ih h with hfound | ⟨r, hr, hreaches⟩
    · exact .inl hfound
    · exact .inr ⟨r, List.mem_cons_of_mem _ hr, hreaches⟩

/-- What was found stays found. -/
theorem subset_reachFrom (found todo : List String) : found ⊆ g.reachFrom found todo := by
  fun_induction reachFrom g found todo with
  | case1 found => exact List.Subset.refl _
  | case2 found s rest _ ih => exact fun t ht => ih (List.mem_cons_of_mem _ ht)
  | case3 found s rest _ ih => exact ih

theorem mem_reachFrom_of_mem {found todo : List String} (h : symbol ∈ todo) (hs : symbol ∈ g.names) :
    symbol ∈ g.reachFrom found todo := by
  fun_induction reachFrom g found todo with
  | case1 found => cases h
  | case2 found s rest _ ih =>
    rcases List.mem_cons.mp h with rfl | h
    · exact subset_reachFrom _ _ (List.mem_cons_self ..)
    · exact ih (List.mem_append_right _ h)
  | case3 found s rest hskip ih =>
    rcases List.mem_cons.mp h with rfl | h
    · exact subset_reachFrom _ _ (by simpa [hs] using hskip)
    · exact ih h

/-- **What the search finds is closed**: it goes on from every symbol that it finds to the symbols that this
one refers to, when that is so or still to come for those found before. -/
theorem closed_reachFrom {found todo : List String}
    (hfound : ∀ s ∈ found, ∀ r ∈ g.names, g.RefersTo s r → r ∈ found ∨ r ∈ todo) :
    ∀ s ∈ g.reachFrom found todo, ∀ r ∈ g.names, g.RefersTo s r → r ∈ g.reachFrom found todo := by
  fun_induction reachFrom g found todo with
  | case1 found => exact fun s hs r hr hrefers => (hfound s hs r hr hrefers).resolve_right List.not_mem_nil
  | case2 found s rest _ ih =>
    refine ih fun t ht r hr hrefers => ?_
    rcases List.mem_cons.mp ht with rfl | ht
    · exact .inr (List.mem_append_left _ (mem_referencesOf.mpr hrefers))
    · rcases hfound t ht r hr hrefers with hr | hr
      · exact .inl (List.mem_cons_of_mem _ hr)
      · rcases List.mem_cons.mp hr with rfl | hr
        · exact .inl (List.mem_cons_self ..)
        · exact .inr (List.mem_append_right _ hr)
  | case3 found s rest hskip ih =>
    refine ih fun t ht r hr hrefers => ?_
    rcases hfound t ht r hr hrefers with hr | hrest
    · exact .inl hr
    · rcases List.mem_cons.mp hrest with rfl | hrest
      · -- a symbol is passed over only when it is found already
        exact .inl (by simpa [hr] using hskip)
      · exact .inr hrest

/-- **What can be reached** is what a chain of references from the origin leads to. -/
theorem mem_reachable (hs : symbol ∈ g.names) :
    symbol ∈ g.reachable ↔ Relation.ReflTransGen g.RefersTo originSymbol symbol := by
  unfold reachable
  constructor
  · intro h
    rcases reaches_of_mem_reachFrom h with h | ⟨s, h, hreaches⟩
    · cases h
    · cases List.mem_singleton.mp h
      exact hreaches
  · intro h
    induction h with
    | refl => exact mem_reachFrom_of_mem (List.mem_singleton_self _) hs
    | tail _ hrefers ih =>
      refine closed_reachFrom ?_ _ (ih hrefers.symbol_mem_names) _ hs hrefers
      exact fun s hs => absurd hs List.not_mem_nil

end NoteMuse.Grammar
