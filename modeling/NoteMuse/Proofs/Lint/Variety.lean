import NoteMuse.Lint
import NoteMuse.Proofs.Expansion.Steady
import NoteMuse.Proofs.Grammar.Rows
import NoteMuse.Proofs.Host.Call
import NoteMuse.Proofs.Template.RoundTrip

/-!
What the lint says of variety. It warns that all expansions are identical when no symbol has two
alternatives and no function is called at the top of one; the calls in the bodies of actions escape it. Main
statements: `expandOrigin_eq_of_identical`, which takes these calls to be steady, and
`not_forall_identical`.
-/

namespace NoteMuse.Lint

open Host Expander NoteMuse.Random

variable {g : Grammar} {n : Nat}

theorem identical_mem_warnings : .identical n ∈ warnings g n ↔ 1 < n ∧ isFixed g = true := by
  unfold warnings
  simp

theorem calls_eq_false_iff {as : List Alternative} :
    calls as = false ↔ ∀ a ∈ as, ∀ c, .call c ∉ a.template := by
  unfold calls
  simp only [List.any_eq_false, Bool.not_eq_true, Option.isSome_eq_false_iff, Option.isNone_iff_eq_none]
  refine forall₂_congr fun a _ => ⟨fun h c hc => ?_, fun h s hs => ?_⟩
  · cases h _ hc
  · cases s with
    | call c => exact absurd hs (h c)
    | literal | reference | action => rfl

/-- **When nothing seems to be left to be drawn**: no symbol has two alternatives, and none calls a
function at the top. -/
theorem isFixed_iff :
    isFixed g = true ↔ ∀ symbol as, g.alternatives? symbol = some as →
      as.length ≤ 1 ∧ ∀ a ∈ as, ∀ c, .call c ∉ a.template := by
  unfold isFixed varies
  rw [List.all_eq_true, Prod.forall]
  refine forall₂_congr fun symbol as => ?_
  rw [Grammar.mem_rows, ← calls_eq_false_iff]
  simp

/-- **What the warning of identical expansions is worth**: no function is called but in the body of an
action, and where the functions that are called there give the same wherever the generator stands, so does
the expansion of the origin. -/
theorem expandOrigin_eq_of_identical (h : .identical n ∈ warnings g n) :
    (∀ symbol as, g.alternatives? symbol = some as → ∀ a ∈ as, ∀ c, .call c ∉ a.template) ∧
      ∀ x : Expander, (∀ symbol c, (symbol, c) ∈ g.calls → x.host.IsSteady c) →
        ∀ gen gen', (x.expandOrigin g gen).1 = (x.expandOrigin g gen').1 := by
  have hg := isFixed_iff.mp (identical_mem_warnings.mp h).2
  refine ⟨fun symbol as has => (hg symbol as has).2, ?_⟩
  intro x hsteady
  refine expandSymbol_steady (steady_expandAt (fun symbol as has => (hg symbol as has).1) ?_ _ _)
  intro symbol as has a ha s hs c hc
  cases s with
  | call d =>
    cases hc
    exact hsteady symbol c (Grammar.mem_calls.mpr ⟨as, has, a, ha, Template.mem_calls_iff.mpr hs⟩)
  | literal | reference | action => cases hc

/-! ### Calls in actions -/

/-- The text `[n:$vault.f()]#n#`, which calls a function of the vault in an action, as a template. -/
def bound (function : String) : Template :=
  [.action "n" [.call ⟨"vault", function, []⟩], .reference "n" []]

def binding (function : String) : Grammar :=
  ⟨.ofList [(originSymbol, [Alternative.mk ("[n:$vault." ++ function ++ "()]#n#") (bound function)])]⟩

/-- The number of notes is drawn by nobody. -/
theorem isSteady_note_count (vault : Vault) (delimiter : String) :
    (Host.mk .builtin vault delimiter).IsSteady ⟨"vault", "note_count", []⟩ := by
  intro gen gen'
  have hf : (Functions.builtin.find? "vault.note_count") = some Builtin.noteCount :=
    Functions.holds_builtin.find? _
  rw [Host.call_of_find?_some hf, Host.call_of_find?_some hf]
  rfl

/-- A grammar that tells the number of notes is warned of, and it does tell the same number at the beginning of
a stream and at its next word. -/
theorem expandOrigin_eq_of_identical_note_count :
    .identical 2 ∈ warnings (binding "note_count") 2 ∧
      (Expander.expandOrigin ⟨⟨.builtin, .ofNotes [.new "A" "", .new "B" ""], "|||"⟩, 10⟩
          (binding "note_count") ⟨.replicate 8 0, 0⟩).1 =
        (Expander.expandOrigin ⟨⟨.builtin, .ofNotes [.new "A" "", .new "B" ""], "|||"⟩, 10⟩
          (binding "note_count") ⟨.replicate 8 0, 1⟩).1 := by
  have h : .identical 2 ∈ warnings (binding "note_count") 2 :=
    identical_mem_warnings.mpr ⟨by decide, by decide +kernel⟩
  have hcalls : (binding "note_count").calls = [(originSymbol, ⟨"vault", "note_count", []⟩)] := by
    decide +kernel
  refine ⟨h, (expandOrigin_eq_of_identical h).2 _ ?_ _ _⟩
  intro symbol c hc
  rw [hcalls] at hc
  cases List.mem_singleton.mp hc
  exact isSteady_note_count _ "|||"

theorem ofTable_binding_random_note :
    Grammar.ofTable (.ofList [(originSymbol, ["[n:$vault.random_note()]#n#"])]) =
      .ok (binding "random_note") := by
  have hparse : Template.parse "[n:$vault.random_note()]#n#" = .ok (bound "random_note") :=
    @Template.read_of_mem_printings (bound "random_note") (by decide) none _ (by decide)
  have hclosed : (binding "random_note").firstUndefined? = none := by decide +kernel
  exact Grammar.ofTable_single hparse hclosed

/-- The warning is not always right: an action that draws a note gives one note at the beginning of a stream
and another one at its next word. -/
theorem not_forall_identical :
    ¬∀ (t : SymbolTable) (g : Grammar) (n : Nat), Grammar.ofTable t = .ok g →
      .identical n ∈ warnings g n → ∀ (vault : Vault) (depth : Nat) (gen gen' : Generator),
        (Expander.expandOrigin ⟨⟨.builtin, vault, "|||"⟩, depth⟩ g gen).1 =
          (Expander.expandOrigin ⟨⟨.builtin, vault, "|||"⟩, depth⟩ g gen').1 := by
  intro h
  have hw : .identical 2 ∈ warnings (binding "random_note") 2 :=
    identical_mem_warnings.mpr ⟨by decide, by decide +kernel⟩
  have heq := h _ _ 2 ofTable_binding_random_note hw (.ofNotes [.new "A" "", .new "B" ""]) 10
    ⟨.replicate 8 0, 0⟩ ⟨.replicate 8 0, 1⟩
  have hfirst : (Expander.expandOrigin ⟨⟨.builtin, .ofNotes [.new "A" "", .new "B" ""], "|||"⟩, 10⟩
      (binding "random_note") ⟨.replicate 8 0, 0⟩).1 = .ok "[[A]]" := by decide +kernel
  have hnext : (Expander.expandOrigin ⟨⟨.builtin, .ofNotes [.new "A" "", .new "B" ""], "|||"⟩, 10⟩
      (binding "random_note") ⟨.replicate 8 0, 1⟩).1 = .ok "[[B]]" := by decide +kernel
  rw [hfirst, hnext] at heq
  exact absurd (Except.ok.inj heq) (by decide)

end NoteMuse.Lint
