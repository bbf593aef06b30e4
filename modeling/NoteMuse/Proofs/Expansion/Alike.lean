import NoteMuse.Proofs.Expansion.Rules
import NoteMuse.Proofs.Grammar.Reach

/-!
Expansions of two grammars that go alike. Where the grammars have the same alternatives for every symbol that an
expansion comes to with nothing bound to it, both give the same text or error, bind the same and draw the same.
Main statements: `alike_expandAt`, `expandAt_congr`.
-/

namespace NoteMuse.Expander

open NoteMuse.Random

variable {α β : Type} {I : Bindings → Prop}

/-- From bindings as `I` says, the two parts do the same, and leave such bindings if they give a value. -/
structure Alike (I : Bindings → Prop) (m m' : Expanding α) : Prop where
  keeps : Meets I (fun _ => True) m fun _ => True
  same : ∀ b g, I b → m' b g = m b g

theorem Alike.bind {m m' : Expanding α} {f f' : α → Expanding β} (hm : Alike I m m')
    (hf : ∀ a, Alike I (f a) (f' a)) : Alike I (m >>= f) (m' >>= f') where
  keeps := hm.keeps.bind fun a _ => (hf a).keeps
  same := by
    intro b g hb
    have hkeeps := hm.keeps b g hb
    rw [bind_eq, bind_eq, hm.same b g hb]
    generalize m b g = p at hkeeps
    obtain ⟨e | r, g⟩ := p
    · rfl
    · exact (hf r.1).same r.2 g hkeeps.2

theorem alike_settled (r : Except ExpansionError α) : Alike I (settled r) (settled r) where
  keeps := meets_settled (by cases r <;> trivial)
  same _ _ _ := rfl

theorem alike_drawing (d : Draw α) : Alike I (drawing d) (drawing d) where
  keeps := meets_drawing fun _ => trivial
  same _ _ _ := rfl

theorem alike_calling (x : Expander) (c : Call) : Alike I (x.calling c) (x.calling c) where
  keeps := meets_calling fun g => by cases (x.host.call c.qualifiedName c.args g).1 <;> trivial
  same _ _ _ := rfl

theorem alike_binding {name : String} (h : ∀ b v, I b → I ((name, v) :: b)) (value : String) :
    Alike I (binding name value) (binding name value) where
  keeps b _ hb := ⟨trivial, h b value hb⟩
  same _ _ _ := rfl

theorem alike_named {expand expand' : String → Expanding String} {symbol : String}
    (h : (∀ b, I b → (b.lookup symbol).isSome = true) ∨ Alike I (expand symbol) (expand' symbol)) :
    Alike I (named expand symbol) (named expand' symbol) := by
  rcases h with hbound | h
  · constructor
    · intro b g hb
      obtain ⟨v, hv⟩ := Option.isSome_iff_exists.mp (hbound b hb)
      unfold named
      rw [hv]
      exact ⟨trivial, hb⟩
    · intro b g hb
      obtain ⟨v, hv⟩ := Option.isSome_iff_exists.mp (hbound b hb)
      unfold named
      rw [hv]
  · constructor
    · exact meets_named (fun _ _ _ _ => trivial) h.keeps
    · intro b g hb
      unfold named
      cases b.lookup symbol with
      | some v => rfl
      | none => exact h.same b g hb

/-- A template goes alike when the symbols that it reads do and its actions leave the bindings as `I` says. -/
theorem alike_renderTemplate {x : Expander} {expand expand' : String → Expanding String} {t : Template}
    (hactions : ∀ name body, .action name body ∈ t.nodes → ∀ b v, I b → I ((name, v) :: b))
    (hsymbols : ∀ n ∈ t.nodes, ∀ r ∈ n.referenced?, Alike I (named expand r) (named expand' r)) :
    Alike I (x.renderTemplate expand t) (x.renderTemplate expand' t) := by
  refine renderTemplate_induction₂ (K := Alike I) x expand x expand' (alike_settled _) ?_ fun s hs hbody => ?_
  · exact fun m₁ m₂ m₁' m₂' h₁ h₂ => h₁.bind fun a => h₂.bind fun b => alike_settled _
  · cases s with
    | literal s =>
      rw [renderSegment_literal, renderSegment_literal]
      exact alike_settled _
    | reference symbol steps =>
      rw [renderSegment_reference, renderSegment_reference]
      exact (hsymbols _ hs symbol rfl).bind fun v => alike_settled _
    | call c =>
      rw [renderSegment_call, renderSegment_call]
      exact alike_calling x c
    | action name body =>
      rw [renderSegment_action, renderSegment_action]
      exact (hbody name body rfl).bind (alike_binding (hactions name body hs))

/-- **Two grammars go alike** from a symbol of a class for which they have the same alternatives, if these refer
only to names of the class and to names that are bound. -/
theorem alike_expandAt {g g' : Grammar} {S : String → Prop}
    (hsame : ∀ s, S s → g'.alternatives? s = g.alternatives? s)
    (hnodes : ∀ s as, S s → g.alternatives? s = some as → ∀ a ∈ as, ∀ n ∈ a.template.nodes,
      (∀ name body, n = .action name body → ∀ b v, I b → I ((name, v) :: b)) ∧
        ∀ r ∈ n.referenced?, (∀ b, I b → (b.lookup r).isSome = true) ∨ S r)
    (x : Expander) (levels : Nat) {symbol : String} (hs : S symbol) :
    Alike I (x.expandAt g levels symbol) (x.expandAt g' levels symbol) := by
  induction levels generalizing symbol with
  | zero =>
    rw [expandAt_zero, expandAt_zero]
    exact alike_settled _
  | succ levels ih =>
    have hsymbol := hsame symbol hs
    rcases alternatives_cases g symbol with hnone | ⟨as, has, hne⟩
    · rw [expandAt_none x g symbol levels hnone, expandAt_none x g' symbol levels (by rwa [hsymbol])]
      exact alike_settled _
    · rw [expandAt_some x g symbol levels has hne,
        expandAt_some x g' symbol levels (hsymbol.trans has) hne]
      refine (alike_drawing _).bind fun i => ?_
      have halternative := hnodes symbol as hs has _ (getD_head_mem hne i)
      refine alike_renderTemplate (fun name body hn => (halternative _ hn).1 name body rfl) fun n hn r hr => ?_
      exact alike_named (((halternative n hn).2 r hr).imp_right ih)

/-- **Alternatives out of reach**: two grammars expand a symbol in the same way when they have the same
alternatives for every name that a chain of references leads to from it. -/
theorem expandAt_congr {g g' : Grammar} {symbol : String}
    (h : ∀ s, Relation.ReflTransGen g.RefersTo symbol s → g'.alternatives? s = g.alternatives? s)
    (x : Expander) (levels : Nat) : x.expandAt g' levels symbol = x.expandAt g levels symbol := by
  have halike : Alike (fun _ => True) (x.expandAt g levels symbol) (x.expandAt g' levels symbol) := by
    refine alike_expandAt h ?_ x levels .refl
    intro s as hs has a ha n hn
    exact ⟨fun _ _ _ _ _ _ => trivial, fun r hr => .inr (hs.tail (.of_mem_nodes has ha hn hr))⟩
  funext b gen
  exact halike.same b gen trivial

end NoteMuse.Expander
