import NoteMuse.Proofs.Expansion.Rules

/-!
Expansions in which nothing is left to be drawn. Two runs of one that begin with the same bindings give the
same text or the same error and the same bindings, wherever their generators stand. Main statement:
`steady_expandAt`.
-/

namespace NoteMuse

open NoteMuse.Random

/-- The call gives the same wherever the generator stands. -/
def Host.IsSteady (h : Host) (c : Call) : Prop :=
  ∀ g g', (h.call c.qualifiedName c.args g).1 = (h.call c.qualifiedName c.args g').1

namespace Expander

variable {α β : Type}

/-- The part gives the same and binds the same wherever the generator stands. -/
def Steady (m : Expanding α) : Prop := ∀ b g g', (m b g).1 = (m b g').1

theorem steady_settled (r : Except ExpansionError α) : Steady (settled r) := fun _ _ _ => rfl

theorem steady_binding (name value : String) : Steady (binding name value) := fun _ _ _ => rfl

theorem Steady.bind {m : Expanding α} {f : α → Expanding β} (hm : Steady m)
    (hf : ∀ a, Steady (f a)) : Steady (m >>= f) := by
  intro b g g'
  have h := hm b g g'
  rw [bind_eq, bind_eq]
  generalize m b g = p at h
  generalize m b g' = p' at h
  obtain ⟨r, g⟩ := p
  obtain ⟨r', g'⟩ := p'
  obtain rfl : r = r' := h
  cases r with
  | error e => rfl
  | ok r => exact hf r.1 r.2 g g'

theorem steady_named {expand : String → Expanding String} {symbol : String}
    (h : Steady (expand symbol)) : Steady (named expand symbol) := by
  intro b g g'
  unfold named
  cases b.lookup symbol with
  | some v => rfl
  | none => exact h b g g'

theorem steady_calling {x : Expander} {c : Call} (h : x.host.IsSteady c) : Steady (x.calling c) := by
  intro b g g'
  have hc := h g g'
  unfold calling
  generalize x.host.call c.qualifiedName c.args g = p at hc
  generalize x.host.call c.qualifiedName c.args g' = p' at hc
  obtain ⟨r, g⟩ := p
  obtain ⟨r', g'⟩ := p'
  obtain rfl : r = r' := hc
  cases r <;> rfl

theorem steady_drawing_one : Steady (drawing (below64 1)) := by
  intro b g g'
  have h : (below64 1 g).1 = (below64 1 g').1 := by
    have := below64_lt Nat.one_pos g
    have := below64_lt Nat.one_pos g'
    omega
  show Except.ok ((below64 1 g).1, b) = Except.ok ((below64 1 g').1, b)
  rw [h]

section Templates

variable {x : Expander}

/-- A template is steady when its calls and the symbols that it reads are. -/
theorem steady_renderTemplate {expand : String → Expanding String} {t : Template}
    (hcalls : ∀ n ∈ t.nodes, ∀ c ∈ n.called?, x.host.IsSteady c)
    (hexpand : ∀ symbol, Steady (expand symbol)) : Steady (x.renderTemplate expand t) := by
  refine renderTemplate_induction x expand (steady_settled _) ?_ fun s hs hbody => ?_
  · exact fun m m' hm hm' => hm.bind fun a => hm'.bind fun b => steady_settled _
  · cases s with
    | literal s =>
      rw [renderSegment_literal]
      exact steady_settled _
    | reference symbol steps =>
      rw [renderSegment_reference]
      exact (steady_named (hexpand symbol)).bind fun v => steady_settled _
    | call c =>
      rw [renderSegment_call]
      exact steady_calling (hcalls _ hs c rfl)
    | action name body =>
      rw [renderSegment_action]
      exact (hbody name body rfl).bind fun v => steady_binding name v

/-- **When nothing is left to be drawn**: no symbol has two alternatives, and all calls are steady. -/
theorem steady_expandAt {g : Grammar}
    (hone : ∀ symbol as, g.alternatives? symbol = some as → as.length ≤ 1)
    (hcalls : ∀ symbol as, g.alternatives? symbol = some as → ∀ a ∈ as, ∀ n ∈ a.template.nodes,
      ∀ c ∈ n.called?, x.host.IsSteady c) (levels : Nat) (symbol : String) :
    Steady (x.expandAt g levels symbol) := by
  induction levels generalizing symbol with
  | zero =>
    rw [expandAt_zero]
    exact steady_settled _
  | succ levels ih =>
    cases has : g.alternatives? symbol with
    | none =>
      rw [expandAt_none x g symbol levels (by rw [has]; rfl)]
      exact steady_settled _
    | some as =>
      match as, hone symbol as has with
      | [], _ =>
        rw [expandAt_none x g symbol levels (by rw [has]; rfl)]
        exact steady_settled _
      | [a], _ =>
        rw [expandAt_singleton x g symbol levels has]
        exact steady_drawing_one.bind fun _ =>
          steady_renderTemplate (hcalls symbol _ has a (List.mem_singleton_self a)) ih

theorem expandSymbol_steady {g : Grammar} {symbol : String}
    (h : Steady (x.expandAt g (x.maxDepth + 1) symbol)) (gen gen' : Generator) :
    (x.expandSymbol g symbol gen).1 = (x.expandSymbol g symbol gen').1 := by
  rw [expandSymbol_eq, expandSymbol_eq]
  show Except.map Prod.fst _ = Except.map Prod.fst _
  rw [h [] gen gen']

end Templates

end Expander

end NoteMuse
