import Mathlib.Data.Set.Insert
import NoteMuse.Proofs.Expansion.Unknown

/-!
Grammars without a base case. Where the origin belongs to a set of symbols each of whose alternatives leads back
into the set, an expansion never comes to an end with a text, whatever is drawn and however many levels are
left: every template that it renders fails at the latest with the reference that leads back. If nothing else can
go wrong, it is the limit that it fails for. Main statement: `fails_of_baseless`.
-/

namespace NoteMuse

/-- The segment gives a text whenever its symbol does: it is literal text, or a reference whose steps take no
part of a cluster and make no plural. -/
def Segment.Total : Segment → Prop
  | .literal _ => True
  | .reference _ steps => ∀ st ∈ steps, (∀ i, st ≠ .part i) ∧ st ≠ .apply .pluralize
  | .call _ => False
  | .action _ _ => False

namespace Grammar

def Total (g : Grammar) : Prop :=
  ∀ symbol as, g.alternatives? symbol = some as → ∀ a ∈ as, ∀ s : Segment, s.Within a.template → s.Total

/-- The set holds the origin, its names are symbols each alternative of which refers to a name in the set, and
no action binds such a name. -/
structure Baseless (g : Grammar) (S : Set String) : Prop where
  origin : originSymbol ∈ S
  returns : ∀ s ∈ S, ∃ as, g.alternatives? s = some as ∧
    ∀ a ∈ as, ∃ r ∈ S, ∃ steps, (Segment.reference r steps).Within a.template
  unbound : ∀ symbol as, g.alternatives? symbol = some as → ∀ a ∈ as,
    ∀ name body, (Segment.action name body).Within a.template → name ∉ S

end Grammar

namespace Expander

open NoteMuse.Random Grammar

/-! ### Parts of an expansion that never give a value -/

section Fails

variable {α β : Type} {I : Bindings → Prop} {x : Expander} {expand : String → Expanding String}

/-- From bindings as `I` says, the part leaves such bindings if it gives a value. -/
def Keeps (I : Bindings → Prop) (m : Expanding α) : Prop := Meets I (fun _ => True) m fun _ => True

/-- From bindings as `I` says, the part gives no value. -/
def Fails (I : Bindings → Prop) (m : Expanding α) : Prop := Meets I (fun _ => True) m fun _ => False

theorem Fails.bind {m : Expanding α} (h : Fails I m) (f : α → Expanding β) : Fails I (m >>= f) :=
  Meets.bind h fun _ ha => ha.elim

theorem Keeps.bind_fails {m : Expanding α} {f : α → Expanding β} (hm : Keeps I m) (hf : ∀ a, Fails I (f a)) :
    Fails I (m >>= f) :=
  Meets.bind hm fun a _ => hf a

theorem fails_renderTemplate {t : Template} {s : Segment} (hs : s ∈ t)
    (hkeeps : ∀ n ∈ t, Keeps I (x.renderSegment expand n)) (h : Fails I (x.renderSegment expand s)) :
    Fails I (x.renderTemplate expand t) := by
  induction t with
  | nil => cases hs
  | cons first rest ih =>
    obtain ⟨hfirst, hrest⟩ := List.forall_mem_cons.mp hkeeps
    rw [renderTemplate_cons]
    rcases List.mem_cons.mp hs with rfl | hs
    · exact h.bind _
    · exact hfirst.bind_fails fun _ => (ih hs hrest).bind _

theorem fails_renderSegment_reference {r : String} (steps : List Step)
    (hunbound : ∀ b, I b → b.lookup r = none) (h : Fails I (expand r)) :
    Fails I (x.renderSegment expand (.reference r steps)) := by
  rw [renderSegment_reference]
  refine Fails.bind (meets_named (fun b v hb hv => ?_) h) _
  rw [hunbound b hb] at hv
  cases hv

/-- **A template fails with any reference in it**, at the top or in an action, whose symbol fails and is not
bound. -/
theorem fails_renderTemplate_of_within {t : Template} {r : String} {steps : List Step}
    (hr : (Segment.reference r steps).Within t) (hunbound : ∀ b, I b → b.lookup r = none)
    (hupholds : ∀ n ∈ t.nodes, x.Upholds I (fun _ => True) (fun _ => True) n)
    (hexpand : ∀ symbol, Keeps I (expand symbol)) (h : Fails I (expand r)) :
    Fails I (x.renderTemplate expand t) := by
  have hkeeps : ∀ {t : Template}, (∀ n ∈ t.nodes, x.Upholds I (fun _ => True) (fun _ => True) n) →
      ∀ n ∈ t, Keeps I (x.renderSegment expand n) := by
    intro t hupholds n hn
    have hnodes := Template.nodes_subset hn
    refine meets_renderSegment trivial (hupholds n (hnodes n.self_mem_nodes)) (fun r _ => hexpand r) ?_
    rintro name body rfl
    rw [Segment.nodes_action] at hnodes
    exact meets_renderTemplate trivial (fun _ _ _ _ => trivial)
      (fun n hn => hupholds n (hnodes (List.mem_cons_of_mem _ hn))) fun _ _ r _ => hexpand r
  induction hr with
  | top hr => exact fails_renderTemplate hr (hkeeps hupholds) (fails_renderSegment_reference steps hunbound h)
  | @inside t body name haction _ ih =>
    have hnodes := Template.nodes_subset haction
    rw [Segment.nodes_action] at hnodes
    have hbody := ih fun n hn => hupholds n (hnodes (List.mem_cons_of_mem _ hn))
    refine fails_renderTemplate haction (hkeeps hupholds) ?_
    rw [renderSegment_action]
    exact hbody.bind _

end Fails

/-! ### Symbols without a base case -/

section Baseless

variable {g : Grammar} {S : Set String}

def Unbound (S : Set String) (b : Bindings) : Prop := ∀ s ∈ S, b.lookup s = none

theorem Unbound.cons {b : Bindings} (h : Unbound S b) {name : String} (hname : name ∉ S) (value : String) :
    Unbound S ((name, value) :: b) := by
  intro s hs
  have hne : s ≠ name := fun heq => hname (heq ▸ hs)
  rw [List.lookup_cons, beq_false_of_ne hne]
  exact h s hs

variable (hS : g.Baseless S) (x : Expander)

include hS

theorem upholds_unbound {symbol : String} {as : List Alternative} (has : g.alternatives? symbol = some as)
    {a : Alternative} (ha : a ∈ as) {n : Segment} (hn : n ∈ a.template.nodes) :
    x.Upholds (Unbound S) (fun _ => True) (fun _ => True) n := by
  refine upholds_bindings (fun _ _ _ => trivial) (fun _ => trivial) (fun _ _ _ _ _ => trivial) ?_
  rintro name body rfl b v hb
  exact hb.cons (hS.unbound symbol as has a ha name body (Template.mem_nodes_iff.mp hn)) v

theorem keeps_expandAt (levels : Nat) (symbol : String) : Keeps (Unbound S) (x.expandAt g levels symbol) :=
  meets_expandAt trivial (fun _ _ _ _ => trivial) (fun _ => trivial) (fun _ => trivial)
    (fun _ _ has _ ha _ hn => upholds_unbound hS x has ha hn) levels symbol

/-- **No symbol of the set has a text**, however many levels are left: with none it fails for the limit, and with
one more each alternative fails with the reference that leads back. -/
theorem fails_expandAt (levels : Nat) {symbol : String} (hs : symbol ∈ S) :
    Fails (Unbound S) (x.expandAt g levels symbol) := by
  induction levels generalizing symbol with
  | zero =>
    rw [expandAt_zero]
    exact meets_settled trivial
  | succ levels ih =>
    obtain ⟨as, has, hreturns⟩ := hS.returns symbol hs
    by_cases hne : as = []
    · rw [expandAt_none x g symbol levels (by rw [has, hne, Option.getD_some])]
      exact meets_settled trivial
    · rw [expandAt_some x g symbol levels has hne]
      refine (meets_drawing (Q := fun _ => True) fun _ => trivial).bind fun i _ => ?_
      have ha := getD_head_mem hne i
      obtain ⟨r, hr, steps, hwithin⟩ := hreturns _ ha
      exact fails_renderTemplate_of_within hwithin (fun b hb => hb r hr)
        (fun n hn => upholds_unbound hS x has ha hn) (keeps_expandAt hS x levels) (ih hr)

end Baseless

/-! ### Where only the limit is left to fail for -/

section Total

/-- Steps that take no part and make no plural always give a text. -/
theorem exists_applySteps (x : Expander) (symbol value : String) {steps : List Step}
    (h : ∀ st ∈ steps, (∀ i, st ≠ .part i) ∧ st ≠ .apply .pluralize) :
    ∃ s, x.applySteps symbol value steps = .ok s := by
  have hstep : ∀ v st, (∀ i, st ≠ .part i) ∧ st ≠ .apply .pluralize → ∃ s, x.applyStep symbol v st = .ok s := by
    rintro v st ⟨hpart, hplural⟩
    cases st with
    | part i => exact absurd rfl (hpart i)
    | apply m =>
      cases m with
      | pluralize => exact absurd rfl hplural
      | capitalize | capitalizeAll | pastTense | article => exact ⟨_, rfl⟩
  induction steps generalizing value with
  | nil => exact ⟨value, rfl⟩
  | cons st steps ih =>
    obtain ⟨hst, hsteps⟩ := List.forall_mem_cons.mp h
    obtain ⟨v, hv⟩ := hstep value st hst
    obtain ⟨s, hs⟩ := ih v hsteps
    refine ⟨s, ?_⟩
    unfold applySteps at hs ⊢
    rw [List.foldlM_cons, hv]
    exact hs

variable {t : SymbolTable} {g : Grammar}

/-- **A closed grammar of total segments fails for the limit only.** Its references are all to symbols, since no
action binds a name. -/
theorem meets_expandAt_total (hclosed : Closed t) (hg : g.Denotes t) (htotal : g.Total) (x : Expander)
    (levels : Nat) {symbol : String} (hs : symbol ∈ t) :
    Meets (fun _ => True) (fun e => ∃ s, e = .tooDeep s x.maxDepth) (x.expandAt g levels symbol)
      fun _ => True := by
  -- a closed grammar refers to symbols and to bound names, and here nothing is bound
  have hsymbols : ∀ {symbol r steps}, Occurs t symbol (.reference r steps) → r ∈ t := by
    intro symbol r steps hr
    refine (hclosed.references symbol r steps hr).resolve_right ?_
    rintro ⟨symbol, body, haction⟩
    obtain ⟨as, has, a, ha, hwithin⟩ := hg.occurs_iff.mp haction
    exact htotal symbol as has a ha _ hwithin
  refine meets_expandAt_of_closed (S := (· ∈ t)) trivial (fun _ _ _ _ => trivial) (fun s _ => ⟨s, rfl⟩)
    (fun s hs hnone => absurd hs ((notMem_iff_getD_eq_nil hclosed hg).mpr hnone)) ?_ levels hs
  intro s as _ has a ha n hn
  have hwithin := Template.mem_nodes_iff.mp hn
  have hn := htotal s as has a ha n hwithin
  cases n with
  | literal text =>
    refine ⟨trivial, ?_⟩
    rintro _ ⟨⟩
  | reference r steps =>
    refine ⟨⟨fun _ _ _ _ => trivial, fun v _ => ?_⟩, ?_⟩
    · obtain ⟨text, htext⟩ := exists_applySteps x r v hn
      rw [htext]
      trivial
    · rintro _ ⟨⟩
      exact hsymbols (hg.occurs_iff.mpr ⟨as, has, a, ha, hwithin⟩)
  | call | action => exact hn.elim

end Total

/-- **A grammar without a base case never gives a text**: an expansion of its origin fails, whatever the limit,
the functions, the notes and the draws. If its segments are all total, it fails for the limit, and the error says
which it was. -/
theorem fails_of_baseless {t : SymbolTable} {g : Grammar} (h : ofTable t = .ok g) {S : Set String}
    (hS : g.Baseless S) (x : Expander) (gen : Generator) :
    (∃ e, (x.expandOrigin g gen).1 = .error e) ∧
      (g.Total → ∃ s, (x.expandOrigin g gen).1 = .error (.tooDeep s x.maxDepth)) := by
  obtain ⟨hclosed, hg⟩ := ofTable_eq_ok_iff.mp h
  have hfails : ∃ e, (x.expandOrigin g gen).1 = .error e := by
    have hends := ends_expandSymbol (fails_expandAt hS x (x.maxDepth + 1) hS.origin) (fun _ _ => rfl) gen
    rw [← expandOrigin] at hends
    cases hr : (x.expandOrigin g gen).1 with
    | ok s =>
      rw [hr] at hends
      exact hends.elim
    | error e => exact ⟨e, rfl⟩
  refine ⟨hfails, fun htotal => ?_⟩
  obtain ⟨e, he⟩ := hfails
  have hends := ends_expandSymbol (meets_expandAt_total hclosed hg htotal x (x.maxDepth + 1) hclosed.origin)
    trivial gen
  rw [← expandOrigin, he] at hends
  obtain ⟨s, rfl⟩ := hends
  exact ⟨s, he⟩

/-- The texts of a ring of two symbols, which the origin leads into. -/
def ringTexts : SymbolTable :=
  .ofList [(originSymbol, ["#ping#"]), ("ping", ["#pong#"]), ("pong", ["#ping#"])]

def ringRows : List (String × List Alternative) :=
  [(originSymbol, [⟨"#ping#", [.reference "ping" []]⟩]), ("ping", [⟨"#pong#", [.reference "pong" []]⟩]),
    ("pong", [⟨"#ping#", [.reference "ping" []]⟩])]

def ring : Grammar := ⟨.ofList ringRows⟩

theorem ofTable_ring : ofTable ringTexts = .ok ring := by
  have hping : Template.parse "#ping#" = .ok [.reference "ping" []] :=
    @Template.read_of_mem_printings [.reference "ping" []] (by decide) none _ (by decide)
  have hpong : Template.parse "#pong#" = .ok [.reference "pong" []] :=
    @Template.read_of_mem_printings [.reference "pong" []] (by decide) none _ (by decide)
  have htexts : ringTexts.toList =
      [(originSymbol, ["#ping#"]), ("ping", ["#pong#"]), ("pong", ["#ping#"])] := rfl
  have hrows : ringTexts.toList.mapM readRow = .ok ringRows := by
    rw [htexts, List.mapM_cons, List.mapM_cons, List.mapM_cons, List.mapM_nil, readRow_single (by decide) hping,
      readRow_single (by decide) hpong, readRow_single (by decide) hping]
    rfl
  rw [ofTable_of_rows hrows]
  exact checkClosed_of_firstUndefined? rfl (by decide +kernel)

theorem eq_reference_of_within_ring {symbol : String} {as : List Alternative}
    (has : ring.alternatives? symbol = some as) {a : Alternative} (ha : a ∈ as) {s : Segment}
    (hs : s.Within a.template) : ∃ r, s = .reference r [] := by
  have hrows : ring.rows = ringRows := rfl
  rw [← mem_rows, hrows] at has
  obtain ⟨r, hr⟩ : ∃ r, a.template = [.reference r []] := by
    simp only [ringRows, List.mem_cons, Prod.mk.injEq, List.not_mem_nil, or_false] at has
    rcases has with ⟨-, rfl⟩ | ⟨-, rfl⟩ | ⟨-, rfl⟩ <;> exact ⟨_, by rw [List.mem_singleton.mp ha]⟩
  rw [hr] at hs
  exact ⟨r, hs.eq_of_singleton rfl⟩

theorem total_ring : ring.Total := by
  intro symbol as has a ha s hs
  obtain ⟨r, rfl⟩ := eq_reference_of_within_ring has ha hs
  exact List.forall_mem_nil _

theorem baseless_ring : ring.Baseless {originSymbol, "ping", "pong"} where
  origin := .inl rfl
  returns := by
    have hwithin : ∀ raw r, ∀ a ∈ [(⟨raw, [.reference r []]⟩ : Alternative)],
        (Segment.reference r []).Within a.template := by
      intro raw r a ha
      rw [List.mem_singleton.mp ha]
      exact .top (List.mem_singleton_self _)
    rintro s (rfl | rfl | rfl)
    · exact ⟨_, rfl, fun a ha => ⟨"ping", .inr (.inl rfl), [], hwithin _ _ a ha⟩⟩
    · exact ⟨_, rfl, fun a ha => ⟨"pong", .inr (.inr rfl), [], hwithin _ _ a ha⟩⟩
    · exact ⟨_, rfl, fun a ha => ⟨"ping", .inr (.inl rfl), [], hwithin _ _ a ha⟩⟩
  unbound := by
    intro symbol as has a ha name body hs
    obtain ⟨r, hr⟩ := eq_reference_of_within_ring has ha hs
    cases hr

/-- The ring fails for want of a fifth level below the origin. -/
theorem fails_of_baseless_ring :
    ofTable ringTexts = .ok ring ∧ ring.Baseless {originSymbol, "ping", "pong"} ∧ ring.Total ∧
      (∃ e, (expandOrigin ⟨⟨.builtin, .ofNotes [], "|||"⟩, 4⟩ ring ⟨.replicate 8 0, 0⟩).1 = .error e) ∧
      ∃ s, (expandOrigin ⟨⟨.builtin, .ofNotes [], "|||"⟩, 4⟩ ring ⟨.replicate 8 0, 0⟩).1 =
        .error (.tooDeep s 4) := by
  obtain ⟨hfails, hlimit⟩ := fails_of_baseless ofTable_ring baseless_ring ⟨⟨.builtin, .ofNotes [], "|||"⟩, 4⟩
    ⟨.replicate 8 0, 0⟩
  exact ⟨ofTable_ring, baseless_ring, total_ring, hfails, hlimit total_ring⟩

end Expander

end NoteMuse
