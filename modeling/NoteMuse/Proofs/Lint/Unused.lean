import NoteMuse.Lint
import NoteMuse.Proofs.Expansion.Alike

/-!
What the lint says of symbols that are never used. They are those that no chain of references leads to from
the origin, and no expansion of the origin depends on their alternatives. Main statement: `unused_exact`.
-/

namespace NoteMuse

open NoteMuse.Random

namespace Lint

variable {g : Grammar} {count : Nat} {symbol : String}

theorem unused_mem_warnings : .unused symbol ∈ warnings g count ↔ symbol ∈ unusedSymbols g := by
  unfold warnings
  simp

theorem mem_unusedSymbols :
    symbol ∈ unusedSymbols g ↔
      symbol ∈ g.names ∧ ¬Relation.ReflTransGen g.RefersTo originSymbol symbol := by
  unfold unusedSymbols
  rw [List.mem_filter, decide_eq_true_eq]
  exact and_congr_right fun hs => not_congr (Grammar.mem_reachable hs)

/-- **What the lint says of unused symbols is exact.** It reports the symbols of the grammar that no chain of
references leads to from the origin, those in actions among them. And a grammar that differs in nothing but
the alternatives of the symbols that are reported expands the origin to the same text or error and leaves the
generator in the same state, whatever functions, notes and depth there are and wherever the generator
stands. -/
theorem unused_exact (g : Grammar) (count : Nat) :
    (∀ symbol, .unused symbol ∈ warnings g count ↔
      symbol ∈ g.names ∧ ¬Relation.ReflTransGen g.RefersTo originSymbol symbol) ∧
    ∀ g' : Grammar,
      (∀ symbol, .unused symbol ∉ warnings g count → g'.alternatives? symbol = g.alternatives? symbol) →
        ∀ (x : Expander) (gen : Generator), x.expandOrigin g' gen = x.expandOrigin g gen := by
  refine ⟨fun symbol => unused_mem_warnings.trans mem_unusedSymbols, ?_⟩
  intro g' hsame x gen
  have hreached : ∀ s, Relation.ReflTransGen g.RefersTo originSymbol s →
      g'.alternatives? s = g.alternatives? s := by
    refine fun s hs => hsame s fun hunused => ?_
    exact (mem_unusedSymbols.mp (unused_mem_warnings.mp hunused)).2 hs
  unfold Expander.expandOrigin
  rw [Expander.expandSymbol_eq, Expander.expandSymbol_eq, Expander.expandAt_congr hreached]

/-- A grammar in which two symbols refer to each other, and to one that is used, but nothing else refers to
them. -/
def circle : Grammar :=
  ⟨.ofList ([("a", [⟨"[n:#b#]#n#", [.action "n" [.reference "b" []], .reference "n" []]⟩]),
    ("b", [⟨"x", [.literal "x"]⟩, ⟨"y", [.literal "y"]⟩]),
    ("c", [⟨"#d# #b#", [.reference "d" [], .literal " ", .reference "b" []]⟩]),
    ("d", [⟨"#c#", [.reference "c" []]⟩]),
    (originSymbol, [⟨"#a#", [.reference "a" []]⟩])] : List (String × List Alternative))⟩

def brokenCircle : Grammar := ⟨circle.symbols.insert "d" [⟨"z", [.literal "z"]⟩]⟩

theorem warnings_circle :
    warnings circle 1 = [.unused "c", .unused "d", .fixed "a", .fixed "c", .fixed "d"] := by
  have hnames : circle.names = ["a", "b", "c", "d", "origin"] := by decide +kernel
  have horigin : circle.referencesOf "origin" = ["a"] := by decide +kernel
  have ha : circle.referencesOf "a" = ["b", "n"] := by decide +kernel
  have hb : circle.referencesOf "b" = [] := by decide +kernel
  have hreached : circle.reachable = ["b", "a", "origin"] := by
    simp [Grammar.reachable, Grammar.reachFrom, originSymbol, hnames, horigin, ha, hb]
  unfold warnings unusedSymbols
  rw [hreached]
  decide +kernel

/-- Both are reported, but not the symbol that is read in an action only, and the other text is never seen. -/
theorem unused_exact_circle :
    warnings circle 1 = [.unused "c", .unused "d", .fixed "a", .fixed "c", .fixed "d"] ∧
      (∀ symbol, .unused symbol ∉ warnings circle 1 →
        brokenCircle.alternatives? symbol = circle.alternatives? symbol) ∧
      brokenCircle.alternatives? "d" = some [⟨"z", [.literal "z"]⟩] ∧
      ∀ (x : Expander) (gen : Generator), x.expandOrigin brokenCircle gen = x.expandOrigin circle gen := by
  have hsame : ∀ symbol, .unused symbol ∉ warnings circle 1 →
      brokenCircle.alternatives? symbol = circle.alternatives? symbol := by
    intro symbol hsymbol
    have hne : symbol ≠ "d" := by
      rintro rfl
      rw [warnings_circle] at hsymbol
      simp at hsymbol
    unfold Grammar.alternatives? brokenCircle
    rw [Std.ExtTreeMap.getElem?_insert]
    simp [hne.symm]
  exact ⟨warnings_circle, hsame, rfl, (unused_exact circle 1).2 brokenCircle hsame⟩

end Lint

end NoteMuse
