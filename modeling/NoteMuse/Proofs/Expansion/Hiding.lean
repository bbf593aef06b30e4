import NoteMuse.Proofs.Expansion.Alike

/-!
Bound names hide symbols. Where every alternative of the origin begins with an action that binds one and the same
name, and the bodies of these actions lead to no reference to it, the name is bound before it is read for the
first time and stays bound, so that nothing depends on the alternatives of the symbol of that name. Main
statement: `expandMany_of_bindsFirst`.
-/

namespace NoteMuse

/-- Every alternative of the origin begins with an action that binds the name, and no chain of references leads
to the name from the body of that action. -/
def Grammar.BindsFirst (g : Grammar) (name : String) : Prop :=
  ∀ as, g.alternatives? originSymbol = some as → ∀ a ∈ as, ∃ body rest,
    a.template = .action name body :: rest ∧
      ∀ r steps, (Segment.reference r steps).Within body → ¬Relation.ReflTransGen g.RefersTo r name

namespace Expander

open NoteMuse.Random

def Bound (name : String) (b : Bindings) : Prop := (b.lookup name).isSome = true

theorem Bound.cons {name : String} {b : Bindings} (h : Bound name b) (other value : String) :
    Bound name ((other, value) :: b) := by
  unfold Bound
  rw [List.lookup_cons]
  by_cases hname : name = other
  · simp [hname]
  · rw [beq_false_of_ne hname]
    exact h

theorem bound_cons (name value : String) (b : Bindings) : Bound name ((name, value) :: b) := by
  simp [Bound]

theorem bound_or_ne (name r : String) : (∀ b, Bound name b → (b.lookup r).isSome = true) ∨ r ≠ name := by
  by_cases hr : r = name
  · exact .inl fun _ hb => hr ▸ hb
  · exact .inr hr

section Hidden

variable {g g' : Grammar} {name : String} (hsame : ∀ s, s ≠ name → g'.alternatives? s = g.alternatives? s)
  (x : Expander)

include hsame

/-- While the name is bound, the alternatives of its symbol are not read. -/
theorem alike_expandAt_of_bound (levels : Nat) {symbol : String} (hs : symbol ≠ name) :
    Alike (Bound name) (x.expandAt g levels symbol) (x.expandAt g' levels symbol) := by
  refine alike_expandAt (S := (· ≠ name)) hsame ?_ x levels hs
  intro s as _ _ a _ n _
  exact ⟨fun other _ _ b v hb => hb.cons other v, fun r _ => bound_or_ne name r⟩

theorem alike_renderTemplate_of_bound (levels : Nat) (t : Template) :
    Alike (Bound name) (x.renderTemplate (x.expandAt g levels) t) (x.renderTemplate (x.expandAt g' levels) t) := by
  refine alike_renderTemplate (fun other _ _ b v hb => hb.cons other v) fun n _ r _ => alike_named ?_
  exact (bound_or_ne name r).imp_right (alike_expandAt_of_bound hsame x levels)

/-- A template that begins by binding the name goes alike, whatever is bound before it. -/
theorem renderTemplate_of_action {body rest : Template} (levels : Nat)
    (hbody : ∀ r steps, (Segment.reference r steps).Within body → ¬Relation.ReflTransGen g.RefersTo r name) :
    x.renderTemplate (x.expandAt g' levels) (.action name body :: rest) =
      x.renderTemplate (x.expandAt g levels) (.action name body :: rest) := by
  have hfirst : x.renderTemplate (x.expandAt g' levels) body = x.renderTemplate (x.expandAt g levels) body := by
    refine renderTemplate_congr x _ fun n hn r hr => ?_
    cases n with
    | reference s steps =>
      cases hr
      have hnot := hbody r steps (Template.mem_nodes_iff.mp hn)
      exact expandAt_congr (fun s hs => hsame s fun he => hnot (he ▸ hs)) x levels
    | literal | call | action => cases hr
  rw [renderTemplate_cons, renderTemplate_cons, renderSegment_action, renderSegment_action, hfirst]
  funext b gen
  simp only [bind_eq]
  rcases x.renderTemplate (x.expandAt g levels) body b gen with ⟨e | r, gen⟩
  · rfl
  · simp only [binding]
    rw [(alike_renderTemplate_of_bound hsame x levels rest).same _ gen (bound_cons name r.1 r.2)]

/-- **The origin is expanded in the same way**, at every level. -/
theorem expandAt_origin_of_bindsFirst (hname : name ≠ originSymbol) (hg : g.BindsFirst name) (levels : Nat) :
    x.expandAt g' levels originSymbol = x.expandAt g levels originSymbol := by
  cases levels with
  | zero => rw [expandAt_zero, expandAt_zero]
  | succ levels =>
    have horigin := hsame originSymbol hname.symm
    rcases alternatives_cases g originSymbol with hnone | ⟨as, has, hne⟩
    · rw [expandAt_none x g _ levels hnone, expandAt_none x g' _ levels (by rwa [horigin])]
    · rw [expandAt_some x g _ levels has hne, expandAt_some x g' _ levels (horigin.trans has) hne]
      congr 1
      funext i
      obtain ⟨body, rest, ht, hbody⟩ := hg as has _ (getD_head_mem hne i)
      rw [ht]
      exact renderTemplate_of_action hsame x levels hbody

end Hidden

theorem expandMany_congr {x : Expander} {g g' : Grammar} (h : x.expandOrigin g' = x.expandOrigin g) (count : Nat) :
    x.expandMany g' count = x.expandMany g count := by
  induction count with
  | zero => rfl
  | succ n ih => rw [expandMany, expandMany, h, ih]

/-- **A bound name hides the symbol.** When every alternative of the origin begins by binding a name that is not
the origin's, and no chain of references leads to this name from what it is bound to, then grammars that differ
in nothing but the alternatives of the symbol of that name, or in whether they have the symbol, expand the origin
any number of times to the same texts or the same error and leave the generator in the same state, whatever the
functions, the notes, the delimiter, the limit and the draws. -/
theorem expandMany_of_bindsFirst {g g' : Grammar} {name : String} (hname : name ≠ originSymbol)
    (hg : g.BindsFirst name) (hsame : ∀ s, s ≠ name → g'.alternatives? s = g.alternatives? s)
    (x : Expander) (count : Nat) (gen : Generator) :
    x.expandMany g' count gen = x.expandMany g count gen := by
  have horigin : x.expandOrigin g' = x.expandOrigin g := by
    unfold expandOrigin expandSymbol
    rw [expandAt_origin_of_bindsFirst hsame x hname hg]
  rw [expandMany_congr horigin]

/-- A grammar whose origin binds a name in each of its texts, and that comes back to the origin and to the name,
which is also a symbol. -/
def covered : Grammar :=
  ⟨.ofList ([("a", [⟨"x", [.literal "x"]⟩]),
    ("b", [⟨"#n#", [.reference "n" []]⟩, ⟨"#origin#", [.reference "origin" []]⟩]),
    ("n", [⟨"z", [.literal "z"]⟩]),
    (originSymbol, [⟨"[n:#a#]#n##b#", [.action "n" [.reference "a" []], .reference "n" [], .reference "b" []]⟩,
      ⟨"[n:y]#b#", [.action "n" [.literal "y"], .reference "b" []]⟩])] : List (String × List Alternative))⟩

def uncovered : Grammar := ⟨covered.symbols.erase "n"⟩

theorem bindsFirst_covered : covered.BindsFirst "n" := by
  have ha : covered.referencesOf "a" = [] := by decide +kernel
  have horigin : covered.alternatives? originSymbol = some
      [⟨"[n:#a#]#n##b#", [.action "n" [.reference "a" []], .reference "n" [], .reference "b" []]⟩,
        ⟨"[n:y]#b#", [.action "n" [.literal "y"], .reference "b" []]⟩] := rfl
  intro as has a hmem
  rw [horigin] at has
  cases has
  rcases List.mem_pair.mp hmem with rfl | rfl
  · refine ⟨[.reference "a" []], _, rfl, fun r steps hr hreaches => ?_⟩
    cases hr.eq_of_singleton rfl
    rcases hreaches.cases_head with he | ⟨s, hs, -⟩
    · exact absurd he (by decide)
    · have hs := Grammar.mem_referencesOf.mpr hs
      rw [ha] at hs
      cases hs
  · refine ⟨[.literal "y"], _, rfl, fun r steps hr => ?_⟩
    cases hr.eq_of_singleton rfl

/-- Without the symbol, all runs of the grammar are as they are with it. -/
theorem expandMany_of_bindsFirst_covered :
    "n" ≠ originSymbol ∧ covered.BindsFirst "n" ∧
      (∀ s, s ≠ "n" → uncovered.alternatives? s = covered.alternatives? s) ∧
      covered.alternatives? "n" = some [⟨"z", [.literal "z"]⟩] ∧ uncovered.alternatives? "n" = none ∧
      ∀ (x : Expander) (count : Nat) (gen : Generator),
        x.expandMany uncovered count gen = x.expandMany covered count gen := by
  have hsame : ∀ s, s ≠ "n" → uncovered.alternatives? s = covered.alternatives? s := by
    intro s hs
    unfold Grammar.alternatives? uncovered
    rw [Std.ExtTreeMap.getElem?_erase]
    simp [hs.symm]
  exact ⟨by decide, bindsFirst_covered, hsame, rfl, rfl,
    expandMany_of_bindsFirst (by decide) bindsFirst_covered hsame⟩

end Expander

end NoteMuse
