import NoteMuse.Lint
import NoteMuse.Proofs.Expansion.Rules
import NoteMuse.Proofs.Grammar.Rows
import NoteMuse.Proofs.Host.Call

/-!
What the lint says of functions. Its errors are the calls of functions that are not registered, at any depth
of an alternative; where it has none, no expansion fails for want of a function. Main statement:
`errors_exact`.
-/

namespace NoteMuse.Lint

open Host Expander NoteMuse.Random

variable {g : Grammar} {fs : Functions}

theorem mem_errors_iff {symbol name : String} :
    .unknownFunction symbol name ∈ errors g fs ↔
      name ∉ fs.names ∧ ∃ as, g.alternatives? symbol = some as ∧
        ∃ a ∈ as, ∃ c : Call, (Segment.call c).Within a.template ∧ c.qualifiedName = name := by
  unfold errors
  rw [List.mem_map]
  simp only [List.mem_filter, Bool.not_eq_true', Bool.eq_false_iff, ne_eq, Functions.contains_iff,
    ← Template.mem_nodes_iff, ← Template.mem_calls_iff]
  constructor
  · rintro ⟨⟨s, c⟩, ⟨hc, hn⟩, he⟩
    cases he
    obtain ⟨as, has, a, ha, hcall⟩ := Grammar.mem_calls.mp hc
    exact ⟨hn, as, has, a, ha, c, hcall, rfl⟩
  · rintro ⟨hn, as, has, a, ha, c, hcall, rfl⟩
    exact ⟨(symbol, c), ⟨Grammar.mem_calls.mpr ⟨as, has, a, ha, hcall⟩, hn⟩, rfl⟩

def NotUndefined (e : ExpansionError) : Prop := ∀ name, e ≠ .function (.undefined name)

/-- Without an error of the lint every call is of a function that is registered. -/
theorem mem_names_of_errors_eq_nil (h : errors g fs = []) {symbol : String} {as : List Alternative}
    (has : g.alternatives? symbol = some as) {a : Alternative} (ha : a ∈ as) {c : Call}
    (hc : .call c ∈ a.template.nodes) : c.qualifiedName ∈ fs.names := by
  by_contra hn
  have hmem : .unknownFunction symbol c.qualifiedName ∈ errors g fs :=
    mem_errors_iff.mpr ⟨hn, as, has, a, ha, c, Template.mem_nodes_iff.mp hc, rfl⟩
  rw [h] at hmem
  cases hmem

/-- No symbol's expansion fails for want of a function, when all that are called are registered. -/
theorem meets_expandAt_of_errors_eq_nil (h : errors g fs = []) {x : Expander}
    (hx : x.host.functions = fs) (levels : Nat) (symbol : String) :
    Meets (fun _ => True) NotUndefined (x.expandAt g levels symbol) fun _ => True := by
  refine meets_expandAt trivial (fun _ _ _ _ => trivial) ?_ ?_ ?_ levels symbol
  · simp [NotUndefined]
  · simp [NotUndefined]
  · intro s as has a ha n hn
    refine upholds_errors (by simp [NotUndefined]) (by simp [NotUndefined]) ?_
    rintro c rfl gen e hc name ⟨⟩
    refine (call_eq_undefined_iff.mp hc).1 ?_
    rw [hx]
    exact mem_names_of_errors_eq_nil h has ha hn

/-- **What the lint says of functions is exact.** When it reports no call of an unknown function, no
expansion of any symbol, and none of several expansions, fails by an undefined function, whatever vault,
delimiter and depth the host has and wherever the generator stands. And it reports a function for a symbol
exactly when the function is not registered and is called in some alternative of the symbol, at the top or
in an action, however deep. -/
theorem errors_exact (g : Grammar) (fs : Functions) :
    (errors g fs = [] → ∀ (vault : Vault) (delimiter : String) (depth : Nat) (gen : Generator),
      let x : Expander := ⟨⟨fs, vault, delimiter⟩, depth⟩
      (∀ symbol name, (x.expandSymbol g symbol gen).1 ≠ .error (.function (.undefined name))) ∧
        ∀ count name, (x.expandMany g count gen).1 ≠ .error (.function (.undefined name))) ∧
      ∀ symbol name, .unknownFunction symbol name ∈ errors g fs ↔
        name ∉ fs.names ∧ ∃ as, g.alternatives? symbol = some as ∧
          ∃ a ∈ as, ∃ c : Call, (Segment.call c).Within a.template ∧ c.qualifiedName = name := by
  refine ⟨?_, fun symbol name => mem_errors_iff⟩
  intro h vault delimiter depth gen x
  refine ⟨?_, ?_⟩
  · intro symbol name he
    have hends := ends_expandSymbol (meets_expandAt_of_errors_eq_nil h rfl (x.maxDepth + 1) symbol)
      trivial gen
    rw [he] at hends
    exact hends name rfl
  · intro count name he
    have hends := ends_expandMany
      (meets_expandAt_of_errors_eq_nil h rfl (x.maxDepth + 1) originSymbol) trivial count gen
    rw [he] at hends
    exact hends name rfl

/-- The grammar of the text `[n:[m:$vault.hub()]#m#]#n#`, where a function is called in an action in an
action. -/
def nested : Grammar :=
  ⟨.ofList [(originSymbol, [Alternative.mk "[n:[m:$vault.hub()]#m#]#n#"
    [.action "n" [.action "m" [.call ⟨"vault", "hub", []⟩], .reference "m" []], .reference "n" []]])]⟩

/-- The lint finds nothing wrong with it, and with the functions of the host none is missing. -/
theorem errors_exact_nested :
    errors nested .builtin = [] ∧ ∀ (vault : Vault) (delimiter : String) (depth : Nat) (gen : Generator),
      let x : Expander := ⟨⟨.builtin, vault, delimiter⟩, depth⟩
      (∀ symbol name, (x.expandSymbol nested symbol gen).1 ≠ .error (.function (.undefined name))) ∧
        ∀ count name, (x.expandMany nested count gen).1 ≠ .error (.function (.undefined name)) := by
  have h : errors nested .builtin = [] := by decide +kernel
  exact ⟨h, (errors_exact nested .builtin).1 h⟩

end NoteMuse.Lint
