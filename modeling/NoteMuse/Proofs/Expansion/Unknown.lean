import NoteMuse.Proofs.Expansion.Rules
import NoteMuse.Proofs.Grammar.Closed
import NoteMuse.Proofs.Template.RoundTrip

/-!
What an expansion of a closed grammar may still look for in vain. The check of a grammar takes every name for
defined that some action binds, while an expansion may come to a reference before it comes to the action; no
other name is ever missing, and no draw is made from a list without alternatives. Main statement:
`boundOnly_of_unknownSymbol`.
-/

namespace NoteMuse.Expander

open NoteMuse.Random Grammar

/-- Some reference names it and some action binds it, but the name is no symbol of the table. -/
structure BoundOnly (t : SymbolTable) (name : String) : Prop where
  missing : name ∉ t
  bound : ∃ symbol body, Occurs t symbol (.action name body)
  referenced : ∃ symbol steps, Occurs t symbol (.reference name steps)

/-- An expansion of the origin may come to the name. -/
def Sought (t : SymbolTable) (name : String) : Prop :=
  name = originSymbol ∨ ∃ symbol steps, Occurs t symbol (.reference name steps)

section Closed

variable {t : SymbolTable} {g : Grammar} (hclosed : Closed t) (hg : g.Denotes t)

include hclosed hg

theorem alternatives_ne_nil {symbol : String} {as : List Alternative} (has : g.alternatives? symbol = some as) :
    as ≠ [] := by
  have htexts : t[symbol]? = some (as.map Alternative.raw) := by rw [hg.texts, has, Option.map_some]
  have hne := (hclosed.rows symbol _ htexts).nonempty
  exact fun has => hne (by rw [has, List.map_nil])

theorem notMem_iff_getD_eq_nil {name : String} : name ∉ t ↔ (g.alternatives? name).getD [] = [] := by
  rw [← hg.mem_iff, Std.ExtTreeMap.mem_iff_isSome_getElem?]
  show ¬(g.alternatives? name).isSome = true ↔ _
  cases has : g.alternatives? name with
  | none => simp
  | some as => simpa using alternatives_ne_nil hclosed hg has

/-- A name that is sought in vain is bound by actions only. -/
theorem boundOnly_of_sought {name : String} (hs : Sought t name)
    (hnone : (g.alternatives? name).getD [] = []) : BoundOnly t name := by
  have hmissing : name ∉ t := (notMem_iff_getD_eq_nil hclosed hg).mpr hnone
  rcases hs with rfl | ⟨symbol, steps, hreference⟩
  · exact absurd hclosed.origin hmissing
  · rcases hclosed.references symbol name steps hreference with hsymbol | hbound
    · exact absurd hsymbol hmissing
    · exact ⟨hmissing, hbound, symbol, steps, hreference⟩

/-- **What is missing to an expansion** of a name that is sought: nothing but names that are bound by actions
only. -/
theorem meets_expandAt_boundOnly (x : Expander) (levels : Nat) {symbol : String} (hs : Sought t symbol) :
    Meets (fun _ => True) (fun e => ∀ name, e = .unknownSymbol name → BoundOnly t name)
      (x.expandAt g levels symbol) fun _ => True := by
  refine meets_expandAt_of_closed (S := Sought t) trivial (fun _ _ _ _ => trivial) ?_ ?_ ?_ levels hs
  · rintro _ _ _ ⟨⟩
  · rintro name hname hnone _ ⟨⟩
    exact boundOnly_of_sought hclosed hg hname hnone
  · intro s as _ has a ha n hn
    refine ⟨upholds_errors ?_ ?_ ?_, fun r hr => ?_⟩
    · rintro _ _ _ _ ⟨⟩
    · rintro _ _ ⟨⟩
    · rintro _ _ _ _ _ _ ⟨⟩
    · cases n with
      | reference r' steps =>
        cases hr
        exact .inr ⟨s, steps, hg.occurs_iff.mpr ⟨as, has, a, ha, Template.mem_nodes_iff.mp hn⟩⟩
      | literal | call | action => cases hr

/-- What an expansion draws from: at least one alternative, or else the name is no symbol and nothing is
drawn. -/
theorem expandAt_of_closed (x : Expander) (levels : Nat) (symbol : String) :
    (symbol ∉ t ∧ x.expandAt g (levels + 1) symbol = settled (.error (.unknownSymbol symbol))) ∨
      ∃ as, ∃ hne : as ≠ [], g.alternatives? symbol = some as ∧
        x.expandAt g (levels + 1) symbol = (drawing (below64 as.length) >>= fun i =>
          x.renderTemplate (x.expandAt g levels) (as.getD i (as.head hne)).template) := by
  rcases alternatives_cases g symbol with hnone | ⟨as, has, hne⟩
  · exact .inl ⟨(notMem_iff_getD_eq_nil hclosed hg).mpr hnone, expandAt_none x g symbol levels hnone⟩
  · exact .inr ⟨as, hne, has, expandAt_some x g symbol levels has hne⟩

end Closed

/-- **No symbol is missing to a closed grammar**, except through actions. Where an expansion of the origin, or
one of several, fails for want of a symbol, this is a name that some action binds and that is no symbol of the
grammar; so none fails where all references are to symbols. Whatever it expands, it draws from at least one
alternative, or it draws nothing since the name is no symbol. -/
theorem boundOnly_of_unknownSymbol {t : SymbolTable} {g : Grammar} (h : ofTable t = .ok g) (x : Expander) :
    (∀ gen name, (x.expandOrigin g gen).1 = .error (.unknownSymbol name) → BoundOnly t name) ∧
    (∀ count gen name, (x.expandMany g count gen).1 = .error (.unknownSymbol name) → BoundOnly t name) ∧
    ((∀ symbol name steps, Occurs t symbol (.reference name steps) → name ∈ t) →
      ∀ gen name, (x.expandOrigin g gen).1 ≠ .error (.unknownSymbol name) ∧
        ∀ count, (x.expandMany g count gen).1 ≠ .error (.unknownSymbol name)) ∧
    ∀ levels symbol,
      (symbol ∉ t ∧ x.expandAt g (levels + 1) symbol = settled (.error (.unknownSymbol symbol))) ∨
        ∃ as, ∃ hne : as ≠ [], g.alternatives? symbol = some as ∧
          x.expandAt g (levels + 1) symbol = (drawing (below64 as.length) >>= fun i =>
            x.renderTemplate (x.expandAt g levels) (as.getD i (as.head hne)).template) := by
  obtain ⟨hclosed, hg⟩ := ofTable_eq_ok_iff.mp h
  have hmeets := meets_expandAt_boundOnly hclosed hg x (x.maxDepth + 1) (.inl rfl)
  have horigin : ∀ gen name, (x.expandOrigin g gen).1 = .error (.unknownSymbol name) → BoundOnly t name := by
    intro gen name he
    have hends := ends_expandSymbol hmeets trivial gen
    rw [← expandOrigin, he] at hends
    exact hends name rfl
  have hmany : ∀ count gen name, (x.expandMany g count gen).1 = .error (.unknownSymbol name) →
      BoundOnly t name := by
    intro count gen name he
    have hends := ends_expandMany hmeets trivial count gen
    rw [he] at hends
    exact hends name rfl
  refine ⟨horigin, hmany, fun hsymbols gen name => ?_, expandAt_of_closed hclosed hg x⟩
  -- a name that an action binds is no symbol, so nobody refers to it here
  have hnot : ¬BoundOnly t name := by
    rintro ⟨hmissing, -, symbol, steps, hreference⟩
    exact hmissing (hsymbols symbol name steps hreference)
  exact ⟨fun he => hnot (horigin gen name he), fun count he => hnot (hmany count gen name he)⟩

/-- The grammar of the text `#a#[a:x]`, which reads a name before it binds it. -/
def early : Grammar := single ⟨"#a#[a:x]", [.reference "a" [], .action "a" [.literal "x"]]⟩

theorem ofTable_early : ofTable (.ofList [(originSymbol, ["#a#[a:x]"])]) = .ok early := by
  have hparse : Template.parse "#a#[a:x]" = .ok [.reference "a" [], .action "a" [.literal "x"]] :=
    @Template.read_of_mem_printings [.reference "a" [], .action "a" [.literal "x"]] (by decide) none _
      (by decide)
  exact ofTable_single hparse (by decide +kernel)

/-- The name is sought before the action is come to. -/
theorem expandOrigin_early (host : Host) (gen : Generator) :
    (expandOrigin ⟨host, 1⟩ early gen).1 = .error (.unknownSymbol "a") := by
  have horigin : early.alternatives? originSymbol =
      some [⟨"#a#[a:x]", [.reference "a" [], .action "a" [.literal "x"]]⟩] := rfl
  have hnone : (early.alternatives? "a").getD [] = [] := rfl
  simp only [expandOrigin, expandSymbol_eq, expandAt_singleton _ _ _ _ horigin, expandAt_none _ _ _ _ hnone,
    drawing, renderTemplate_cons, renderSegment_reference, bind_eq, named, settled]
  rfl

/-- The grammar is closed, and its expansion fails for want of the name. -/
theorem boundOnly_of_unknownSymbol_early :
    ofTable (.ofList [(originSymbol, ["#a#[a:x]"])]) = .ok early ∧
      (expandOrigin ⟨⟨.builtin, .ofNotes [], "|||"⟩, 1⟩ early ⟨.replicate 8 0, 0⟩).1 =
        .error (.unknownSymbol "a") ∧
      BoundOnly (.ofList [(originSymbol, ["#a#[a:x]"])]) "a" := by
  have hfails := expandOrigin_early ⟨.builtin, .ofNotes [], "|||"⟩ ⟨.replicate 8 0, 0⟩
  exact ⟨ofTable_early, hfails, (boundOnly_of_unknownSymbol ofTable_early _).1 _ "a" hfails⟩

end NoteMuse.Expander
