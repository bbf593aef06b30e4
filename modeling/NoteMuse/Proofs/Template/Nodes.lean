import NoteMuse.Proofs.Template.Read

/-!
The segments of a template at every depth. What a template lists are the segments that stand in it, each at
the top or in the body of an action, however deep; its references and calls are among them. Main statement:
`mem_nodes_iff`.
-/

namespace NoteMuse

/-- The segment stands in the template: at the top, or in the body of an action that does. -/
inductive Segment.Within (s : Segment) : Template → Prop
  | top {t : Template} (h : s ∈ t) : Within s t
  | inside {t body : Template} {name : String} (h : .action name body ∈ t) (hs : s.Within body) :
    Within s t

namespace Segment

theorem self_mem_nodes (s : Segment) : s ∈ s.nodes := by
  cases s <;> simp [nodes]

theorem nodes_action (name : String) (body : Template) :
    nodes (.action name body) = .action name body :: Template.nodes body := by rw [nodes]

theorem forall_nodes_action {p : Segment → Prop} {name : String} {body : Template} :
    (∀ n ∈ nodes (.action name body), p n) ↔
      p (.action name body) ∧ ∀ n ∈ Template.nodes body, p n := by
  rw [nodes_action, List.forall_mem_cons]

theorem Within.cons {s : Segment} {t : Template} (h : s.Within t) (first : Segment) :
    s.Within (first :: t) := by
  cases h with
  | top h => exact .top (List.mem_cons_of_mem _ h)
  | inside h hs => exact .inside (List.mem_cons_of_mem _ h) hs

theorem Within.eq_of_singleton {s n : Segment} (h : s.Within [n]) (hn : n.bound? = none) : s = n := by
  cases h with
  | top h => exact List.mem_singleton.mp h
  | inside h _ =>
    cases List.mem_singleton.mp h
    cases hn

end Segment

namespace Template

theorem nodes_cons (s : Segment) (rest : Template) :
    nodes (s :: rest) = s.nodes ++ nodes rest := by rw [nodes]

theorem forall_nodes_cons {p : Segment → Prop} {s : Segment} {rest : Template} :
    (∀ n ∈ nodes (s :: rest), p n) ↔ (∀ n ∈ s.nodes, p n) ∧ ∀ n ∈ nodes rest, p n := by
  rw [nodes_cons, List.forall_mem_append]

theorem nodes_subset {s : Segment} {t : Template} (h : s ∈ t) : s.nodes ⊆ t.nodes := by
  induction t with
  | nil => cases h
  | cons first rest ih =>
    rw [nodes_cons]
    rcases List.mem_cons.mp h with rfl | h
    · exact List.subset_append_left ..
    · exact List.subset_append_of_subset_right _ (ih h)

/-- **What a template lists**: the segments that stand in it, however deep. -/
theorem mem_nodes_iff {s : Segment} {t : Template} : s ∈ t.nodes ↔ s.Within t := by
  constructor
  · intro h
    induction t using Template.induction with
    | nil => cases h
    | literal _ rest ih | reference _ _ rest ih | call _ rest ih =>
      rw [nodes_cons] at h
      rcases List.mem_append.mp h with h | h
      · obtain rfl := List.mem_singleton.mp h
        exact .top (List.mem_cons_self ..)
      · exact (ih h).cons _
    | action name body rest ihb ih =>
      rw [nodes_cons, Segment.nodes_action] at h
      rcases List.mem_append.mp h with h | h
      · rcases List.mem_cons.mp h with rfl | h
        · exact .top (List.mem_cons_self ..)
        · exact .inside (List.mem_cons_self ..) (ihb h)
      · exact (ih h).cons _
  · intro h
    induction h with
    | top h => exact nodes_subset h s.self_mem_nodes
    | inside h _ ih =>
      refine nodes_subset h ?_
      rw [Segment.nodes_action]
      exact List.mem_cons_of_mem _ ih

theorem mem_references_iff {r : String} {t : Template} :
    r ∈ t.references ↔ ∃ steps, .reference r steps ∈ t.nodes := by
  unfold references
  rw [List.mem_filterMap]
  constructor
  · rintro ⟨s, hs, hr⟩
    cases s with
    | reference symbol steps =>
      cases hr
      exact ⟨steps, hs⟩
    | literal | call | action => cases hr
  · rintro ⟨steps, h⟩
    exact ⟨_, h, rfl⟩

theorem mem_bindings_iff {name : String} {t : Template} :
    name ∈ t.bindings ↔ ∃ body, .action name body ∈ t.nodes := by
  unfold bindings
  rw [List.mem_filterMap]
  constructor
  · rintro ⟨s, hs, hn⟩
    cases s with
    | action action body =>
      cases hn
      exact ⟨body, hs⟩
    | literal | reference | call => cases hn
  · rintro ⟨body, h⟩
    exact ⟨_, h, rfl⟩

theorem mem_calls_iff {c : Call} {t : Template} : c ∈ t.calls ↔ .call c ∈ t.nodes := by
  unfold calls
  rw [List.mem_filterMap]
  constructor
  · rintro ⟨s, hs, hc⟩
    cases s with
    | call d =>
      cases hc
      exact hs
    | literal | reference | action => cases hc
  · intro h
    exact ⟨_, h, rfl⟩

end Template

end NoteMuse
