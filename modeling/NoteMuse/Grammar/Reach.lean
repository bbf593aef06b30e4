import NoteMuse.Grammar

/-!
Which symbols of a grammar an expansion of the origin can come to: the origin, and every symbol that
an alternative of such a symbol refers to, inside actions too.
-/

namespace NoteMuse.Grammar

/-- The symbols that the alternatives of a symbol refer to. -/
def referencesOf (g : Grammar) (symbol : String) : List String :=
  ((g.alternatives? symbol).getD []).flatMap fun a => a.template.references

theorem length_filter_lt {α : Type} {p q : α → Bool} {xs : List α} {x : α} (hx : x ∈ xs)
    (hqx : q x = true) (hpx : p x = false) (h : ∀ y, p y = true → q y = true) :
    (xs.filter p).length < (xs.filter q).length := by
  induction xs with
  | nil => cases hx
  | cons y ys ih =>
    have hle : (ys.filter p).length ≤ (ys.filter q).length := by
      simp only [← List.countP_eq_length_filter]
      exact List.countP_mono_left fun z _ => h z
    rcases List.mem_cons.mp hx with rfl | hx
    · simp [hqx, hpx]; omega
    · have := ih hx
      by_cases hp : p y = true
      · simp [hp, h y hp, this]
      · by_cases hq : q y = true <;> simp [hp, hq] <;> omega

/-- The symbols found so far and those that can be reached from the names still to be looked at. -/
def reachFrom (g : Grammar) (found : List String) : List String → List String
  | [] => found
  | s :: rest =>
    if s ∈ g.names ∧ s ∉ found then g.reachFrom (s :: found) (g.referencesOf s ++ rest)
    else g.reachFrom found rest
termination_by todo => ((g.names.filter fun n => n ∉ found).length, todo.length)
decreasing_by
  · rename_i h
    exact Prod.Lex.left _ _ (length_filter_lt h.1 (by simpa using h.2) (by simp)
      (by simp only [List.mem_cons, not_or, decide_eq_true_eq]; exact fun y hy => hy.2))
  · exact Prod.Lex.right _ (by simp)

/-- The symbols that can be reached from the origin. -/
def reachable (g : Grammar) : List String := g.reachFrom [] [originSymbol]

end NoteMuse.Grammar
