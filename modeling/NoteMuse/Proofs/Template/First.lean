import NoteMuse.Proofs.Template.Nodes

/-!
The first reference of a template with a property. References come in the order of the text, those of an
action where the action stands; a search through the references that are listed finds the first one. Main
statement: `find?_references_eq_some_iff`.
-/

namespace NoteMuse.Template

/-- In the order of the text, the first reference to a name with the property is one to this name. -/
inductive FirstReference (p : String → Prop) (name : String) : Template → Prop
  | here {rest : Template} (steps : List Step) (hp : p name) :
    FirstReference p name (.reference name steps :: rest)
  | inside {body rest : Template} (action : String) (h : FirstReference p name body) :
    FirstReference p name (.action action body :: rest)
  | later {first : Segment} {rest : Template}
    (hfirst : ∀ r steps, (Segment.reference r steps).Within [first] → ¬p r)
    (h : FirstReference p name rest) : FirstReference p name (first :: rest)

variable {name : String} {t : Template}

theorem references_cons (first : Segment) (rest : Template) :
    references (first :: rest) = references [first] ++ references rest := by
  unfold references
  rw [nodes_cons, nodes_cons, List.filterMap_append, List.filterMap_append]
  simp [nodes]

theorem references_action (action : String) (body : Template) :
    references [.action action body] = references body := by
  unfold references
  rw [nodes_cons, Segment.nodes_action, nodes, List.append_nil, List.filterMap_cons_none rfl]

/-- No reference with the property stands in the template, however deep. -/
theorem find?_references_eq_none_iff {p : String → Bool} :
    t.references.find? p = none ↔ ∀ r steps, (Segment.reference r steps).Within t → ¬p r = true := by
  rw [List.find?_eq_none]
  constructor
  · exact fun h r steps hr => h r (mem_references_iff.mpr ⟨steps, mem_nodes_iff.mpr hr⟩)
  · intro h r hr
    obtain ⟨steps, hsteps⟩ := mem_references_iff.mp hr
    exact h r steps (mem_nodes_iff.mp hsteps)

/-- **The first reference** with a property is the one that a search through all references finds. -/
theorem find?_references_eq_some_iff {p : String → Bool} :
    t.references.find? p = some name ↔ t.FirstReference (fun r => p r = true) name := by
  constructor
  · intro h
    -- the induction goes into actions, whose references are listed before those that follow
    induction t using Template.induction with
    | nil => cases h
    | literal s rest ih | call c rest ih =>
      refine .later (fun r steps hr => ?_) (ih h)
      rw [← mem_nodes_iff] at hr
      simp [nodes, Segment.nodes] at hr
    | reference r steps rest ih =>
      rw [references_cons, List.find?_append, Option.or_eq_some_iff] at h
      rcases h with h | ⟨hnone, h⟩
      · have hr : references [.reference r steps] = [r] := rfl
        rw [hr, List.find?_singleton] at h
        split at h
        · next hp =>
          cases h
          exact .here steps hp
        · cases h
      · exact .later (find?_references_eq_none_iff.mp hnone) (ih h)
    | action action body rest ihb ih =>
      rw [references_cons, List.find?_append, Option.or_eq_some_iff] at h
      rcases h with h | ⟨hnone, h⟩
      · rw [references_action] at h
        exact .inside action (ihb h)
      · exact .later (find?_references_eq_none_iff.mp hnone) (ih h)
  · intro h
    -- here on the way to the reference: past segments without one, and into actions
    induction h with
    | here steps hp =>
      have hr : references [.reference name steps] = [name] := rfl
      rw [references_cons, hr, List.singleton_append, List.find?_cons_of_pos hp]
    | inside action _ ih =>
      rw [references_cons, references_action, List.find?_append, ih, Option.some_or]
    | later hfirst _ ih =>
      rw [references_cons, List.find?_append, find?_references_eq_none_iff.mpr hfirst, ih, Option.none_or]

end NoteMuse.Template
