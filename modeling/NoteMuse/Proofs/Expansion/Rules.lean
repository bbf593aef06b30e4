import NoteMuse.Expansion
import NoteMuse.Proofs.Except
import NoteMuse.Proofs.Template.Nodes

/-!
Rules for expansions. What the parts of an expansion do to the bindings and the generator is written out
once, and with it what an expansion keeps up: a condition on the bindings, on the texts that are given and
on the errors, which holds of a whole template when each of its segments upholds it. Main statements:
`meets_renderTemplate`, `meets_expandAt`.
-/

namespace NoteMuse.Expander

open NoteMuse.Random

variable {α β : Type}

/-! ### Parts of an expansion, one after another -/

theorem bind_eq (m : Expanding α) (f : α → Expanding β) (b : Bindings) (g : Generator) :
    (m >>= f) b g =
      match m b g with
      | (.ok r, g) => f r.1 r.2 g
      | (.error e, g) => (.error e, g) := by
  simp only [bind, StateT.bind, ExceptT.bind, ExceptT.mk, ExceptT.bindCont]
  rcases m b g with ⟨r | r, g⟩ <;> rfl

/-- A result that is there without a draw and binds nothing. -/
def settled (r : Except ExpansionError α) : Expanding α := fun b g => (r.map fun a => (a, b), g)

/-- The value of a symbol: what an action has bound to it, or else its expansion. -/
def named (expand : String → Expanding String) (symbol : String) : Expanding String := fun b g =>
  match b.lookup symbol with
  | some v => (.ok (v, b), g)
  | none => expand symbol b g

/-- The text of an action, which is empty; the name is bound from then on. -/
def binding (name value : String) : Expanding String := fun b g => (.ok ("", (name, value) :: b), g)

section Segments

variable (x : Expander) (expand : String → Expanding String)

theorem renderSegment_literal (s : String) : x.renderSegment expand (.literal s) = settled (.ok s) := by
  rw [renderSegment]
  rfl

theorem renderSegment_reference (symbol : String) (steps : List Step) :
    x.renderSegment expand (.reference symbol steps) =
      (named expand symbol >>= fun v => settled (x.applySteps symbol v steps)) := by
  rw [renderSegment]
  funext b g
  have hget : (get : Expanding Bindings) b g = (.ok (b, b), g) := rfl
  simp only [bind_eq, named, hget]
  cases b.lookup symbol with
  | some v =>
    have hpure : (pure v : Expanding String) b g = (.ok (v, b), g) := rfl
    simp only [bind_eq, hpure]
    cases x.applySteps symbol v steps <;> rfl
  | none =>
    simp only [bind_eq]
    rcases expand symbol b g with ⟨e | ⟨v, b⟩, g⟩
    · rfl
    · simp only
      cases x.applySteps symbol v steps <;> rfl

theorem renderSegment_call (c : Call) : x.renderSegment expand (.call c) = x.calling c := by
  rw [renderSegment]

theorem renderSegment_action (name : String) (body : Template) :
    x.renderSegment expand (.action name body) = (x.renderTemplate expand body >>= binding name) := by
  rw [renderSegment]
  rfl

theorem renderTemplate_nil : x.renderTemplate expand [] = settled (.ok "") := by
  rw [renderTemplate]
  rfl

theorem renderTemplate_cons (s : Segment) (rest : Template) :
    x.renderTemplate expand (s :: rest) =
      (x.renderSegment expand s >>= fun a =>
        x.renderTemplate expand rest >>= fun b => settled (.ok (a ++ b))) := by
  rw [renderTemplate]
  rfl

/-- **Induction on a template as it is rendered twice**: a relation between parts of expansions holds between
two renderings of the template when it goes over to parts that are put one after another and holds between
the renderings of each segment in the template, of an action once it holds between those of the body. -/
theorem renderTemplate_induction₂ {K : Expanding String → Expanding String → Prop} (x' : Expander)
    (expand' : String → Expanding String) (hnil : K (settled (.ok "")) (settled (.ok "")))
    (hcons : ∀ m₁ m₂ m₁' m₂', K m₁ m₁' → K m₂ m₂' →
      K (m₁ >>= fun a => m₂ >>= fun b => settled (.ok (a ++ b)))
        (m₁' >>= fun a => m₂' >>= fun b => settled (.ok (a ++ b))))
    {t : Template} (hsegment : ∀ s ∈ t.nodes,
      (∀ name body, s = .action name body →
        K (x.renderTemplate expand body) (x'.renderTemplate expand' body)) →
      K (x.renderSegment expand s) (x'.renderSegment expand' s)) :
    K (x.renderTemplate expand t) (x'.renderTemplate expand' t) := by
  have hnext : ∀ {s : Segment} {rest : Template},
      K (x.renderSegment expand s) (x'.renderSegment expand' s) →
      K (x.renderTemplate expand rest) (x'.renderTemplate expand' rest) →
      K (x.renderTemplate expand (s :: rest)) (x'.renderTemplate expand' (s :: rest)) := by
    intro s rest hs hrest
    rw [renderTemplate_cons, renderTemplate_cons]
    exact hcons _ _ _ _ hs hrest
  induction t using Template.induction with
  | nil =>
    rw [renderTemplate_nil, renderTemplate_nil]
    exact hnil
  | literal _ rest ih | reference _ _ rest ih | call _ rest ih =>
    obtain ⟨hs, hrest⟩ := Template.forall_nodes_cons.mp hsegment
    refine hnext (hs _ (Segment.self_mem_nodes _) ?_) (ih hrest)
    rintro _ _ ⟨⟩
  | action name body rest ihb ih =>
    obtain ⟨hs, hrest⟩ := Template.forall_nodes_cons.mp hsegment
    obtain ⟨haction, hbody⟩ := Segment.forall_nodes_action.mp hs
    refine hnext (haction ?_) (ih hrest)
    rintro _ _ ⟨⟩
    exact ihb hbody

theorem renderTemplate_induction {K : Expanding String → Prop} (hnil : K (settled (.ok "")))
    (hcons : ∀ m m', K m → K m' → K (m >>= fun a => m' >>= fun b => settled (.ok (a ++ b))))
    {t : Template} (hsegment : ∀ s ∈ t.nodes,
      (∀ name body, s = .action name body → K (x.renderTemplate expand body)) →
        K (x.renderSegment expand s)) :
    K (x.renderTemplate expand t) :=
  renderTemplate_induction₂ (K := fun m _ => K m) x expand x expand hnil
    (fun m₁ m₂ _ _ => hcons m₁ m₂) hsegment

/-- A template reads nothing of its symbols but those that it refers to. -/
theorem renderTemplate_congr {expand' : String → Expanding String} {t : Template}
    (h : ∀ n ∈ t.nodes, ∀ r ∈ n.referenced?, expand r = expand' r) :
    x.renderTemplate expand t = x.renderTemplate expand' t := by
  refine renderTemplate_induction₂ (K := fun m m' => m = m') x expand x expand' rfl ?_ fun s hs hbody => ?_
  · rintro _ _ _ _ rfl rfl
    rfl
  · cases s with
    | literal s => rw [renderSegment_literal, renderSegment_literal]
    | reference symbol steps =>
      have hsymbol : named expand symbol = named expand' symbol := by
        unfold named
        rw [h _ hs symbol rfl]
      rw [renderSegment_reference, renderSegment_reference, hsymbol]
    | call c => rw [renderSegment_call, renderSegment_call]
    | action name body => rw [renderSegment_action, renderSegment_action, hbody name body rfl]

end Segments

/-- What may be wrong with the steps after a symbol: a part is missing, or a modifier breaks off. -/
theorem ends_applySteps (x : Expander) (symbol value : String) (steps : List Step) :
    Ends (fun e => (∃ i n, e = .missingPart symbol i n) ∨ ∃ f, e = .broke f) (fun _ => True)
      (x.applySteps symbol value steps) := by
  have hstep : ∀ v st e, x.applyStep symbol v st = .error e →
      (∃ i n, e = .missingPart symbol i n) ∨ ∃ f, e = .broke f := by
    intro v st e he
    cases st with
    | part i =>
      unfold applyStep at he
      simp only at he
      split at he
      · cases he
      · cases he; exact .inl ⟨_, _, rfl⟩
    | apply m =>
      unfold applyStep at he
      simp only at he
      split at he
      · cases he
      · cases he; exact .inr ⟨_, rfl⟩
  induction steps generalizing value with
  | nil => trivial
  | cons st steps ih =>
    unfold applySteps
    rw [List.foldlM_cons]
    cases hs : x.applyStep symbol value st with
    | ok v => exact ih v
    | error e => exact hstep value st e hs

section Symbols

variable (x : Expander) (g : Grammar) (symbol : String)

theorem expandAt_zero : x.expandAt g 0 symbol = settled (.error (.tooDeep symbol x.maxDepth)) := by
  rw [expandAt]
  rfl

theorem expandAt_none (levels : Nat) (h : (g.alternatives? symbol).getD [] = []) :
    x.expandAt g (levels + 1) symbol = settled (.error (.unknownSymbol symbol)) := by
  rw [expandAt]
  split
  · rfl
  · rfl
  · next hs =>
    rw [hs] at h
    cases h

theorem expandAt_some (levels : Nat) {as : List Alternative} (h : g.alternatives? symbol = some as)
    (hne : as ≠ []) :
    x.expandAt g (levels + 1) symbol =
      (drawing (below64 as.length) >>= fun i =>
        x.renderTemplate (x.expandAt g levels) (as.getD i (as.head hne)).template) := by
  rw [expandAt]
  split
  · next hn => rw [h] at hn; cases hn
  · next hn =>
    rw [h] at hn
    cases hn
    exact absurd rfl hne
  · next hs =>
    rw [h] at hs
    cases hs
    rfl

theorem expandAt_singleton (levels : Nat) {a : Alternative} (h : g.alternatives? symbol = some [a]) :
    x.expandAt g (levels + 1) symbol =
      (drawing (below64 1) >>= fun _ => x.renderTemplate (x.expandAt g levels) a.template) := by
  rw [expandAt_some x g symbol levels h (List.cons_ne_nil a [])]
  congr 1
  funext i
  cases i <;> rfl

theorem alternatives_cases :
    (g.alternatives? symbol).getD [] = [] ∨ ∃ as, g.alternatives? symbol = some as ∧ as ≠ [] := by
  cases g.alternatives? symbol with
  | none => exact .inl rfl
  | some as =>
    by_cases hne : as = []
    · exact .inl hne
    · exact .inr ⟨as, rfl, hne⟩

theorem getD_head_mem {as : List Alternative} (hne : as ≠ []) (i : Nat) :
    as.getD i (as.head hne) ∈ as := by
  rw [List.getD_eq_getElem?_getD]
  cases h : as[i]? with
  | none => exact List.head_mem hne
  | some a => exact List.mem_of_getElem? h

end Symbols

/-! ### What expansions keep up -/

/-- From bindings as `I` says, the part gives a value as `Q` says and leaves bindings as `I` says, or it
fails as `E` says. -/
def Meets (I : Bindings → Prop) (E : ExpansionError → Prop) (m : Expanding α) (Q : α → Prop) : Prop :=
  ∀ b g, I b → Ends E (fun r => Q r.1 ∧ I r.2) (m b g).1

variable {I : Bindings → Prop} {E : ExpansionError → Prop}

theorem Meets.bind {m : Expanding α} {f : α → Expanding β} {P : α → Prop} {Q : β → Prop}
    (hm : Meets I E m P) (hf : ∀ a, P a → Meets I E (f a) Q) : Meets I E (m >>= f) Q := by
  intro b g hb
  have h := hm b g hb
  rw [bind_eq]
  generalize m b g = p at h
  obtain ⟨r | r, g⟩ := p
  · exact h
  · exact hf r.1 h.1 r.2 g h.2

theorem meets_settled {r : Except ExpansionError α} {Q : α → Prop} (h : Ends E Q r) :
    Meets I E (settled r) Q := by
  intro b g hb
  cases r with
  | ok a => exact ⟨h, hb⟩
  | error e => exact h

theorem meets_drawing {d : Draw α} {Q : α → Prop} (h : ∀ g, Q (d g).1) : Meets I E (drawing d) Q :=
  fun _ g hb => ⟨h g, hb⟩

theorem meets_named {expand : String → Expanding String} {symbol : String} {Q : String → Prop}
    (hbound : ∀ b v, I b → b.lookup symbol = some v → Q v) (h : Meets I E (expand symbol) Q) :
    Meets I E (named expand symbol) Q := by
  intro b g hb
  unfold named
  cases hl : b.lookup symbol with
  | some v => exact ⟨hbound b v hb hl, hb⟩
  | none => exact h b g hb

theorem meets_calling {x : Expander} {c : Call} {Q : String → Prop}
    (h : ∀ g, Ends (fun e => E (.function e)) Q (x.host.call c.qualifiedName c.args g).1) :
    Meets I E (x.calling c) Q := by
  intro b g hb
  have hc := h g
  unfold calling
  generalize x.host.call c.qualifiedName c.args g = p at hc
  obtain ⟨r | r, g⟩ := p
  · exact hc
  · exact ⟨hc, hb⟩

/-- A segment keeps up the condition `I` on bindings, `E` on errors and `Q` on texts, when the symbols that
it reads do. -/
def Upholds (x : Expander) (I : Bindings → Prop) (E : ExpansionError → Prop) (Q : String → Prop) :
    Segment → Prop
  | .literal s => Q s
  | .reference symbol steps =>
    (∀ b v, I b → b.lookup symbol = some v → Q v) ∧
      ∀ v, Q v → Ends E Q (x.applySteps symbol v steps)
  | .call c => Meets I E (x.calling c) Q
  | .action name _ => ∀ b v, I b → Q v → I ((name, v) :: b)

/-- Where nothing is asked of texts, it is enough that no step and no call fails otherwise than `E` says and
that actions bind what `I` says. -/
theorem upholds_bindings {x : Expander} (hpart : ∀ s i n, E (.missingPart s i n)) (hbroke : ∀ f, E (.broke f))
    {s : Segment} (hcall : ∀ c, s = .call c → ∀ gen e,
      (x.host.call c.qualifiedName c.args gen).1 = .error e → E (.function e))
    (hbinds : ∀ name body, s = .action name body → ∀ b v, I b → I ((name, v) :: b)) :
    x.Upholds I E (fun _ => True) s := by
  cases s with
  | literal t => trivial
  | reference r steps =>
    refine ⟨fun _ _ _ _ => trivial, fun v _ => (ends_applySteps x r v steps).imp ?_ fun _ h => h⟩
    rintro e (⟨i, n, rfl⟩ | ⟨f, rfl⟩)
    · exact hpart r i n
    · exact hbroke f
  | call c =>
    rw [Upholds]
    refine meets_calling fun gen => ?_
    cases hc : (x.host.call c.qualifiedName c.args gen).1 with
    | ok t => trivial
    | error e => exact hcall c rfl gen e hc
  | action name body => exact fun b v hb _ => hbinds name body rfl b v hb

theorem upholds_errors {x : Expander} (hpart : ∀ s i n, E (.missingPart s i n)) (hbroke : ∀ f, E (.broke f))
    {s : Segment} (hcall : ∀ c, s = .call c → ∀ gen e,
      (x.host.call c.qualifiedName c.args gen).1 = .error e → E (.function e)) :
    x.Upholds (fun _ => True) E (fun _ => True) s :=
  upholds_bindings hpart hbroke hcall fun _ _ _ _ _ _ => trivial

section Templates

variable {x : Expander} {Q : String → Prop} (hempty : Q "") (happend : ∀ a b, Q a → Q b → Q (a ++ b))

include hempty in
/-- What a segment keeps up: what it upholds, when the symbol that it reads and the body of an action do. -/
theorem meets_renderSegment {expand : String → Expanding String} {s : Segment} (hs : x.Upholds I E Q s)
    (hexpand : ∀ r ∈ s.referenced?, Meets I E (expand r) Q)
    (hbody : ∀ name body, s = .action name body → Meets I E (x.renderTemplate expand body) Q) :
    Meets I E (x.renderSegment expand s) Q := by
  cases s with
  | literal s =>
    rw [renderSegment_literal]
    exact meets_settled hs
  | reference symbol steps =>
    obtain ⟨hbound, hsteps⟩ := hs
    rw [renderSegment_reference]
    exact (meets_named hbound (hexpand symbol rfl)).bind fun v hv => meets_settled (hsteps v hv)
  | call c =>
    rw [renderSegment_call]
    exact hs
  | action name body =>
    rw [renderSegment_action]
    exact (hbody name body rfl).bind fun v hv b g hb => ⟨hempty, hs b v hb hv⟩

include hempty happend in
/-- **What a template keeps up**: all that each segment in it upholds. -/
theorem meets_renderTemplate {expand : String → Expanding String} {t : Template}
    (hnodes : ∀ n ∈ t.nodes, x.Upholds I E Q n)
    (hexpand : ∀ n ∈ t.nodes, ∀ r ∈ n.referenced?, Meets I E (expand r) Q) :
    Meets I E (x.renderTemplate expand t) Q := by
  refine renderTemplate_induction (K := fun m => Meets I E m Q) x expand ?_ ?_ fun s hs hbody => ?_
  · exact meets_settled hempty
  · exact fun m m' hm hm' => hm.bind fun a ha => hm'.bind fun b hb => meets_settled (happend a b ha hb)
  · exact meets_renderSegment hempty (hnodes s hs) (hexpand s hs) hbody

include hempty happend in
/-- **What the symbols of a class keep up** that refer to symbols of the class only: all that each segment of
their alternatives upholds, as far as the errors of symbols allow it that are too deep or have no
alternatives. -/
theorem meets_expandAt_of_closed {g : Grammar} {S : String → Prop}
    (hdeep : ∀ s, S s → E (.tooDeep s x.maxDepth))
    (hunknown : ∀ s, S s → (g.alternatives? s).getD [] = [] → E (.unknownSymbol s))
    (hnodes : ∀ s as, S s → g.alternatives? s = some as → ∀ a ∈ as, ∀ n ∈ a.template.nodes,
      x.Upholds I E Q n ∧ ∀ r ∈ n.referenced?, S r) (levels : Nat) {symbol : String} (hs : S symbol) :
    Meets I E (x.expandAt g levels symbol) Q := by
  induction levels generalizing symbol with
  | zero =>
    rw [expandAt_zero]
    exact meets_settled (hdeep symbol hs)
  | succ levels ih =>
    rcases alternatives_cases g symbol with hnone | ⟨as, has, hne⟩
    · rw [expandAt_none x g symbol levels hnone]
      exact meets_settled (hunknown symbol hs hnone)
    · rw [expandAt_some x g symbol levels has hne]
      refine (meets_drawing (Q := fun _ => True) fun _ => trivial).bind fun i _ => ?_
      have halternative := hnodes symbol as hs has _ (getD_head_mem hne i)
      exact meets_renderTemplate hempty happend (fun n hn => (halternative n hn).1)
        fun n hn r hr => ih ((halternative n hn).2 r hr)

include hempty happend in
/-- **What a grammar keeps up**: all that each segment of its alternatives upholds. -/
theorem meets_expandAt {g : Grammar} (hdeep : ∀ s, E (.tooDeep s x.maxDepth))
    (hunknown : ∀ s, E (.unknownSymbol s))
    (hnodes : ∀ s as, g.alternatives? s = some as → ∀ a ∈ as, ∀ n ∈ a.template.nodes,
      x.Upholds I E Q n) (levels : Nat) (symbol : String) :
    Meets I E (x.expandAt g levels symbol) Q :=
  meets_expandAt_of_closed (S := fun _ => True) hempty happend (fun s _ => hdeep s)
    (fun s _ _ => hunknown s) (fun s as _ has a ha n hn => ⟨hnodes s as has a ha n hn, fun _ _ => trivial⟩)
    levels trivial

end Templates

/-! ### Whole expansions -/

section Whole

variable {x : Expander} {g : Grammar} {Q : String → Prop}

/-- An expansion of a symbol begins with nothing bound. -/
theorem expandSymbol_eq (x : Expander) (g : Grammar) (symbol : String) (gen : Generator) :
    x.expandSymbol g symbol gen =
      ((x.expandAt g (x.maxDepth + 1) symbol [] gen).1.map Prod.fst,
        (x.expandAt g (x.maxDepth + 1) symbol [] gen).2) := by
  unfold expandSymbol StateT.run'
  simp only [Functor.map, ExceptT.map, ExceptT.mk, bind, StateT.bind]
  rcases x.expandAt g (x.maxDepth + 1) symbol [] gen with ⟨e | r, gen'⟩ <;> rfl

theorem expandMany_succ (x : Expander) (g : Grammar) (n : Nat) (gen : Generator) :
    x.expandMany g (n + 1) gen =
      match x.expandOrigin g gen with
      | (.error e, gen) => (.error e, gen)
      | (.ok s, gen) => ((x.expandMany g n gen).1.map (s :: ·), (x.expandMany g n gen).2) := by
  rw [expandMany]
  simp only [bind, ExceptT.bind, ExceptT.mk, StateT.bind]
  rcases x.expandOrigin g gen with ⟨e | s, gen'⟩
  · rfl
  · simp only [ExceptT.bindCont, StateT.bind]
    rcases x.expandMany g n gen' with ⟨e | rest, gen''⟩ <;> rfl

/-- A run may be cut in two: the second part goes on from where the first leaves the stream. -/
theorem expandMany_add (x : Expander) (g : Grammar) (m n : Nat) (gen : Generator) :
    x.expandMany g (m + n) gen =
      match x.expandMany g m gen with
      | (.error e, gen) => (.error e, gen)
      | (.ok texts, gen) => ((x.expandMany g n gen).1.map (texts ++ ·), (x.expandMany g n gen).2) := by
  induction m generalizing gen with
  | zero =>
    have hzero : x.expandMany g 0 gen = (.ok [], gen) := rfl
    simp only [Nat.zero_add, hzero]
    rcases x.expandMany g n gen with ⟨e | texts, gen'⟩ <;> rfl
  | succ m ih =>
    rw [Nat.add_right_comm, expandMany_succ, expandMany_succ]
    rcases x.expandOrigin g gen with ⟨e | s, gen₁⟩
    · rfl
    · simp only [ih gen₁]
      rcases x.expandMany g m gen₁ with ⟨e | texts, gen₂⟩
      · rfl
      · simp only [Except.map]
        rcases x.expandMany g n gen₂ with ⟨e | more, gen₃⟩ <;> rfl

/-- A grammar that comes to one text from everywhere in a stream comes to it each time. -/
theorem expandMany_of_expandOrigin {s : String} (h : ∀ gen, (x.expandOrigin g gen).1 = .ok s) (count : Nat)
    (gen : Generator) : (x.expandMany g count gen).1 = .ok (List.replicate count s) := by
  induction count generalizing gen with
  | zero => rfl
  | succ n ih =>
    have hfirst := h gen
    rw [expandMany_succ]
    generalize x.expandOrigin g gen = p at hfirst
    obtain ⟨r, gen'⟩ := p
    obtain rfl : r = .ok s := hfirst
    simp only [ih gen']
    rfl

theorem ends_expandSymbol {symbol : String}
    (h : Meets I E (x.expandAt g (x.maxDepth + 1) symbol) Q) (hI : I []) (gen : Generator) :
    Ends E Q (x.expandSymbol g symbol gen).1 := by
  have hrun := h [] gen hI
  rw [expandSymbol_eq]
  generalize (x.expandAt g (x.maxDepth + 1) symbol [] gen).1 = r at hrun
  cases r with
  | ok r => exact hrun.1
  | error e => exact hrun

theorem ends_expandMany (h : Meets I E (x.expandAt g (x.maxDepth + 1) originSymbol) Q) (hI : I [])
    (count : Nat) (gen : Generator) :
    Ends E (fun texts => ∀ s ∈ texts, Q s) (x.expandMany g count gen).1 := by
  induction count generalizing gen with
  | zero => exact fun s hs => absurd hs List.not_mem_nil
  | succ n ih =>
    have hfirst : Ends E Q (x.expandOrigin g gen).1 := ends_expandSymbol h hI gen
    rw [expandMany_succ]
    generalize x.expandOrigin g gen = p at hfirst
    obtain ⟨e | s, gen'⟩ := p
    · exact hfirst
    · have hrest := ih gen'
      simp only
      generalize (x.expandMany g n gen').1 = r at hrest
      cases r with
      | error e => exact hrest
      | ok rest => exact List.forall_mem_cons.mpr ⟨hfirst, hrest⟩

end Whole

end NoteMuse.Expander
