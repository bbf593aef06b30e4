import NoteMuse.Proofs.Expansion.Rules
import NoteMuse.Proofs.Grammar.Reach

/-!
The depth limit of an expansion. An expansion that does not come to its limit goes the same way under every
higher one, to the same text or error and to the same place in the stream; the error of one that does names
the limit and a name that the symbol leads to. Main statement: `expansion_of_maxDepth_le`.
-/

namespace NoteMuse.Expander

open NoteMuse.Random

variable {α β : Type}

/-! ### Going the same way -/

/-- The second part does all that the first one does without coming to its limit. -/
def Extends (m m' : Expanding α) : Prop :=
  ∀ b g, (∀ s d, (m b g).1 ≠ .error (.tooDeep s d)) → m' b g = m b g

theorem Extends.refl (m : Expanding α) : Extends m m := fun _ _ _ => rfl

theorem Extends.bind {m m' : Expanding α} {f f' : α → Expanding β} (hm : Extends m m')
    (hf : ∀ a, Extends (f a) (f' a)) : Extends (m >>= f) (m' >>= f') := by
  intro b g h
  rw [bind_eq] at h
  have hfirst : m' b g = m b g := by
    refine hm b g fun s d he => h s d ?_
    generalize m b g = p at he
    obtain ⟨r, g⟩ := p
    cases he
    rfl
  rw [bind_eq, bind_eq, hfirst]
  generalize m b g = p at h
  obtain ⟨e | r, g⟩ := p
  · rfl
  · exact hf r.1 r.2 g h

theorem extends_named {expand expand' : String → Expanding String} {symbol : String}
    (h : Extends (expand symbol) (expand' symbol)) :
    Extends (named expand symbol) (named expand' symbol) := by
  intro b g
  unfold named
  cases b.lookup symbol with
  | some v => exact fun _ => rfl
  | none => exact h b g

section Limits

variable (host : Host) (g : Grammar) {limit limit' : Nat}

/-- A template goes the same way under another limit when the symbols that it reads do. -/
theorem extends_renderTemplate {expand expand' : String → Expanding String}
    (h : ∀ symbol, Extends (expand symbol) (expand' symbol)) (t : Template) :
    Extends (renderTemplate ⟨host, limit⟩ expand t) (renderTemplate ⟨host, limit'⟩ expand' t) := by
  refine renderTemplate_induction₂ (K := Extends) _ _ _ _ (.refl _) ?_ fun s _ hbody => ?_
  · exact fun m₁ m₂ m₁' m₂' h₁ h₂ => h₁.bind fun a => h₂.bind fun b => .refl _
  · cases s with
    | literal s =>
      rw [renderSegment_literal, renderSegment_literal]
      exact .refl _
    | reference symbol steps =>
      rw [renderSegment_reference, renderSegment_reference]
      exact (extends_named (h symbol)).bind fun v => .refl _
    | call c =>
      rw [renderSegment_call, renderSegment_call]
      exact .refl _
    | action name body =>
      rw [renderSegment_action, renderSegment_action]
      exact (hbody name body rfl).bind fun v => .refl _

/-- **More levels**: an expansion that does not come to its limit goes the same way with more levels left,
whatever limit its errors would name. -/
theorem extends_expandAt {levels levels' : Nat} (hle : levels ≤ levels') (symbol : String) :
    Extends (expandAt ⟨host, limit⟩ g levels symbol) (expandAt ⟨host, limit'⟩ g levels' symbol) := by
  induction levels generalizing levels' symbol with
  | zero =>
    intro b gen h
    rw [expandAt_zero] at h
    exact absurd rfl (h symbol limit)
  | succ levels ih =>
    obtain ⟨more, rfl⟩ : ∃ more, levels' = more + 1 := ⟨levels' - 1, by omega⟩
    rcases alternatives_cases g symbol with hnone | ⟨as, has, hne⟩
    · rw [expandAt_none _ g symbol levels hnone, expandAt_none _ g symbol more hnone]
      exact .refl _
    · rw [expandAt_some _ g symbol levels has hne, expandAt_some _ g symbol more has hne]
      exact (Extends.refl _).bind fun i =>
        extends_renderTemplate host (fun r => ih (Nat.le_of_succ_le_succ hle) r) _

end Limits

/-! ### Errors of the limit -/

/-- The error, if it is one of depth, names the limit and a name that references lead to from the symbol. -/
def Names (g : Grammar) (limit : Nat) (symbol : String) (e : ExpansionError) : Prop :=
  ∀ s d, e = .tooDeep s d → d = limit ∧ Relation.ReflTransGen g.RefersTo symbol s

theorem meets_expandAt_names (x : Expander) (g : Grammar) (levels : Nat) (symbol : String) :
    Meets (fun _ => True) (Names g x.maxDepth symbol) (x.expandAt g levels symbol) fun _ => True := by
  refine meets_expandAt_of_closed (S := Relation.ReflTransGen g.RefersTo symbol) trivial
    (fun _ _ _ _ => trivial) ?_ ?_ ?_ levels .refl
  · rintro s hs _ _ ⟨⟩
    exact ⟨rfl, hs⟩
  · rintro s hs _ _ _ ⟨⟩
  · intro s as hs has a ha n hn
    refine ⟨upholds_errors ?_ ?_ ?_, fun r hr => hs.tail (.of_mem_nodes has ha hn hr)⟩
    · rintro _ _ _ _ _ ⟨⟩
    · rintro _ _ _ ⟨⟩
    · rintro _ _ _ _ _ _ _ ⟨⟩

/-! ### Whole expansions -/

section Whole

variable {host : Host} {g : Grammar} {limit limit' : Nat}

theorem expandSymbol_of_le (hle : limit ≤ limit') {symbol : String} {gen : Generator}
    (h : ∀ s d, (expandSymbol ⟨host, limit⟩ g symbol gen).1 ≠ .error (.tooDeep s d)) :
    expandSymbol ⟨host, limit'⟩ g symbol gen = expandSymbol ⟨host, limit⟩ g symbol gen := by
  rw [expandSymbol_eq] at h
  rw [expandSymbol_eq, expandSymbol_eq]
  have hshort : ∀ s d, (expandAt ⟨host, limit⟩ g (limit + 1) symbol [] gen).1 ≠ .error (.tooDeep s d) := by
    intro s d he
    refine h s d ?_
    show Except.map _ (expandAt ⟨host, limit⟩ g (limit + 1) symbol [] gen).1 = _
    rw [he]
    rfl
  have hrun : expandAt ⟨host, limit'⟩ g (limit' + 1) symbol [] gen =
      expandAt ⟨host, limit⟩ g (limit + 1) symbol [] gen :=
    extends_expandAt host g (Nat.succ_le_succ hle) symbol [] gen hshort
  rw [hrun]

theorem expandMany_of_le (hle : limit ≤ limit') {count : Nat} {gen : Generator}
    (h : ∀ s d, (expandMany ⟨host, limit⟩ g count gen).1 ≠ .error (.tooDeep s d)) :
    expandMany ⟨host, limit'⟩ g count gen = expandMany ⟨host, limit⟩ g count gen := by
  induction count generalizing gen with
  | zero => rfl
  | succ n ih =>
    rw [expandMany_succ] at h
    have hfirst : expandOrigin ⟨host, limit'⟩ g gen = expandOrigin ⟨host, limit⟩ g gen := by
      refine expandSymbol_of_le hle fun s d he => h s d ?_
      have horigin : (expandOrigin ⟨host, limit⟩ g gen).1 = .error (.tooDeep s d) := he
      generalize expandOrigin ⟨host, limit⟩ g gen = p at horigin
      obtain ⟨r, gen'⟩ := p
      cases horigin
      rfl
    rw [expandMany_succ, expandMany_succ, hfirst]
    generalize expandOrigin ⟨host, limit⟩ g gen = p at h
    obtain ⟨e | s, gen'⟩ := p
    · rfl
    · have hrest : expandMany ⟨host, limit'⟩ g n gen' = expandMany ⟨host, limit⟩ g n gen' := by
        refine ih fun s' d he => h s' d ?_
        show Except.map _ (expandMany ⟨host, limit⟩ g n gen').1 = _
        rw [he]
        rfl
      simp only [hrest]

/-- **A higher limit** changes nothing in an expansion that does not come to its limit: under it a symbol, or
any number of expansions of the origin, gives the same text or error and leaves the generator in the same
state. An error of depth names the limit and a name that references of the grammar lead to from the symbol,
which may be the symbol itself. -/
theorem expansion_of_limit_le (host : Host) (g : Grammar) {limit limit' : Nat} (hle : limit ≤ limit') :
    (∀ symbol gen, (∀ s d, (expandSymbol ⟨host, limit⟩ g symbol gen).1 ≠ .error (.tooDeep s d)) →
      expandSymbol ⟨host, limit'⟩ g symbol gen = expandSymbol ⟨host, limit⟩ g symbol gen) ∧
    (∀ count gen, (∀ s d, (expandMany ⟨host, limit⟩ g count gen).1 ≠ .error (.tooDeep s d)) →
      expandMany ⟨host, limit'⟩ g count gen = expandMany ⟨host, limit⟩ g count gen) ∧
    (∀ symbol gen s d, (expandSymbol ⟨host, limit⟩ g symbol gen).1 = .error (.tooDeep s d) →
      d = limit ∧ Relation.ReflTransGen g.RefersTo symbol s) ∧
    ∀ count gen s d, (expandMany ⟨host, limit⟩ g count gen).1 = .error (.tooDeep s d) →
      d = limit ∧ Relation.ReflTransGen g.RefersTo originSymbol s := by
  refine ⟨fun _ _ => expandSymbol_of_le hle, fun _ _ => expandMany_of_le hle, ?_, ?_⟩
  · intro symbol gen s d he
    have hends := ends_expandSymbol (meets_expandAt_names ⟨host, limit⟩ g (limit + 1) symbol) trivial gen
    rw [he] at hends
    exact hends s d rfl
  · intro count gen s d he
    have hends := ends_expandMany
      (meets_expandAt_names ⟨host, limit⟩ g (limit + 1) originSymbol) trivial count gen
    rw [he] at hends
    exact hends s d rfl

/-- A chain of references from the origin, and a symbol that refers to itself only. -/
def stairs : Grammar :=
  ⟨.ofList ([("a", [⟨"x", [.literal "x"]⟩]), ("loop", [⟨"#loop#", [.reference "loop" []]⟩]),
    (originSymbol, [⟨"#a#", [.reference "a" []]⟩])] : List (String × List Alternative))⟩

def bare : Host := ⟨.builtin, .ofNotes [], "|||"⟩

theorem alternatives?_stairs :
    stairs.alternatives? originSymbol = some [⟨"#a#", [.reference "a" []]⟩] ∧
      stairs.alternatives? "a" = some [⟨"x", [.literal "x"]⟩] ∧
      stairs.alternatives? "loop" = some [⟨"#loop#", [.reference "loop" []]⟩] := ⟨rfl, rfl, rfl⟩

theorem expandSymbol_stairs (gen : Generator) :
    (expandSymbol ⟨bare, 1⟩ stairs originSymbol gen).1 = .ok "x" ∧
      (expandSymbol ⟨bare, 0⟩ stairs originSymbol gen).1 = .error (.tooDeep "a" 0) ∧
      (expandSymbol ⟨bare, 1⟩ stairs "loop" gen).1 = .error (.tooDeep "loop" 1) := by
  obtain ⟨horigin, ha, hloop⟩ := alternatives?_stairs
  simp only [expandSymbol_eq, expandAt_singleton _ _ _ _ horigin, expandAt_singleton _ _ _ _ ha,
    expandAt_singleton _ _ _ _ hloop, expandAt_zero, drawing, renderTemplate_cons, renderSegment_reference,
    renderSegment_literal, bind_eq, named, settled]
  exact ⟨rfl, rfl, rfl⟩

theorem expandMany_one (x : Expander) (g : Grammar) (gen : Generator) :
    (x.expandMany g 1 gen).1 = (x.expandOrigin g gen).1.map fun s => [s] := by
  rw [expandMany_succ]
  rcases x.expandOrigin g gen with ⟨e | s, gen'⟩ <;> rfl

/-- One level below the origin is enough for the chain, and more change none of its texts. No level is enough
for the symbol that refers to itself. -/
theorem expansion_of_limit_le_stairs :
    1 ≤ 5 ∧
      expandSymbol ⟨bare, 5⟩ stairs originSymbol ⟨.replicate 8 0, 0⟩ =
        expandSymbol ⟨bare, 1⟩ stairs originSymbol ⟨.replicate 8 0, 0⟩ ∧
      expandMany ⟨bare, 5⟩ stairs 1 ⟨.replicate 8 0, 0⟩ = expandMany ⟨bare, 1⟩ stairs 1 ⟨.replicate 8 0, 0⟩ ∧
      (expandMany ⟨bare, 1⟩ stairs 1 ⟨.replicate 8 0, 0⟩).1 = .ok ["x"] ∧
      (expandSymbol ⟨bare, 1⟩ stairs "loop" ⟨.replicate 8 0, 0⟩).1 = .error (.tooDeep "loop" 1) ∧
      Relation.ReflTransGen stairs.RefersTo "loop" "loop" ∧
      (expandMany ⟨bare, 0⟩ stairs 1 ⟨.replicate 8 0, 0⟩).1 = .error (.tooDeep "a" 0) ∧
      Relation.ReflTransGen stairs.RefersTo originSymbol "a" := by
  obtain ⟨hsymbol, hshort, hloop⟩ := expandSymbol_stairs ⟨.replicate 8 0, 0⟩
  have hmany : (expandMany ⟨bare, 1⟩ stairs 1 ⟨.replicate 8 0, 0⟩).1 = .ok ["x"] := by
    rw [expandMany_one, expandOrigin, hsymbol]
    rfl
  have hnone : (expandMany ⟨bare, 0⟩ stairs 1 ⟨.replicate 8 0, 0⟩).1 = .error (.tooDeep "a" 0) := by
    rw [expandMany_one, expandOrigin, hshort]
    rfl
  have hmore := expansion_of_limit_le bare stairs (show 1 ≤ 5 by decide)
  have hless := expansion_of_limit_le bare stairs (show 0 ≤ 1 by decide)
  exact ⟨by decide, hmore.1 _ _ (by simp [hsymbol]), hmore.2.1 _ _ (by simp [hmany]), hmany, hloop,
    (hmore.2.2.1 _ _ _ _ hloop).2, hnone, (hless.2.2.2 _ _ _ _ hnone).2⟩

end Whole

end NoteMuse.Expander
