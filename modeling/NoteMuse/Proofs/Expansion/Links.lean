import NoteMuse.Proofs.Expansion.Rules
import NoteMuse.Proofs.Grammar.Rows
import NoteMuse.Proofs.Host.Builtin
import NoteMuse.Proofs.Note.Titles
import NoteMuse.Suggestion

/-!
Grammars that write no links themselves and take values apart only. With the functions that every grammar may
call, all links in their texts lead to notes of the vault, however values are bound, joined and split on the
way. Main statement: `notes_of_mem_ofTexts`.
-/

namespace NoteMuse

open Host NoteMuse.Random

/-- The segment writes no opening bracket, and changes no value but by taking a part of it. -/
def Segment.Plain : Segment → Prop
  | .literal s => '[' ∉ s.toList
  | .reference _ steps => ∀ st ∈ steps, ∃ i, st = .part i
  | .call _ => True
  | .action _ _ => True

/-- All segments in the alternatives of the grammar are plain, however deep they stand. -/
def Grammar.Plain (g : Grammar) : Prop :=
  ∀ symbol as, g.alternatives? symbol = some as → ∀ a ∈ as, ∀ s : Segment, s.Within a.template → s.Plain

namespace Expander

variable {v : Vault} {d : String} {depth : Nat}

/-- A part of a text that the vault covers is covered as well, when the delimiter begins with a bar. -/
theorem covers_of_mem_parts {fs : Functions} {sep : List Char} (hd : d.toList = '|' :: sep)
    (hsep : '[' ∉ sep) {value part : String} (hvalue : v.Covers value)
    (hpart : part ∈ Host.parts ⟨fs, v, d⟩ value) : v.Covers part := by
  obtain ⟨ts, hts, hlinks⟩ := hvalue
  unfold Host.parts Text.pieces at hpart
  rw [List.map_map, hd] at hpart
  obtain ⟨p, hp, rfl⟩ := List.mem_map.mp hpart
  obtain ⟨us, hus, hp⟩ := hlinks.exists_of_mem_splitOn hsep hp
  refine ⟨us, List.Subset.trans hus hts, ?_⟩
  simp only [Function.comp_apply, Text.trimmed, String.toList_ofList]
  exact hp.trim

theorem covers_applySteps {fs : Functions} {sep : List Char} (hd : d.toList = '|' :: sep)
    (hsep : '[' ∉ sep) (symbol : String) {steps : List Step} (hsteps : ∀ st ∈ steps, ∃ i, st = .part i)
    {value : String} (hvalue : v.Covers value) :
    Ends (fun _ => True) v.Covers (applySteps ⟨⟨fs, v, d⟩, depth⟩ symbol value steps) := by
  induction steps generalizing value with
  | nil => exact hvalue
  | cons st steps ih =>
    obtain ⟨⟨i, rfl⟩, hrest⟩ := List.forall_mem_cons.mp hsteps
    unfold applySteps applyStep
    rw [List.foldlM_cons]
    simp only
    cases hp : (Host.parts ⟨fs, v, d⟩ value)[i]? with
    | none => trivial
    | some part => exact ih hrest (covers_of_mem_parts hd hsep hvalue (List.mem_of_getElem? hp))

/-- **What a plain grammar gives** with the functions that every grammar may call: texts that the vault
covers. -/
theorem meets_expandAt_of_plain (hv : v.Clean) {g : Grammar} (hg : g.Plain) (levels : Nat)
    (symbol : String) :
    Meets (fun b => ∀ p ∈ b, v.Covers p.2) (fun _ => True)
      (expandAt ⟨⟨.builtin, v, "|||"⟩, depth⟩ g levels symbol) v.Covers := by
  have hd : "|||".toList = '|' :: ['|', '|'] := by decide
  -- the invariant: the vault covers what is bound, so a reference to a bound name is covered too
  have hlookup : ∀ (b : Bindings) (name value : String), (∀ p ∈ b, v.Covers p.2) →
      b.lookup name = some value → v.Covers value := by
    intro b name value hb hl
    obtain ⟨before, after, rfl, -⟩ := List.lookup_eq_some_iff.mp hl
    exact hb (name, value) (by simp)
  refine meets_expandAt (Vault.covers_of_notMem (by simp)) (fun _ _ => Vault.Covers.append)
    (fun _ => trivial) (fun _ => trivial) ?_ levels symbol
  intro s as has a ha n hn
  have hplain := hg s as has a ha n (Template.mem_nodes_iff.mp hn)
  cases n with
  | literal t => exact Vault.covers_of_notMem hplain
  | reference r steps =>
    exact ⟨fun b value => hlookup b r value, fun value => covers_applySteps hd (by decide) r hplain⟩
  | action name body => exact fun b value hb hvalue => List.forall_mem_cons.mpr ⟨hvalue, hb⟩
  -- a call fails or gives what its function gives, which `builtin_covers` speaks of
  | call c =>
    rw [Upholds]
    refine meets_calling fun gen => ?_
    cases hf : Functions.builtin.find? c.qualifiedName with
    | none =>
      rw [call_of_find?_none hf]
      trivial
    | some f =>
      have hvalue := Builtin.builtin_covers hv hf c.args gen
      rw [call_of_find?_some hf]
      simp only
      generalize f v c.args gen = p at hvalue
      obtain ⟨e | value, gen⟩ := p
      · trivial
      · exact Value.CoveredBy.render hvalue (by decide)

end Expander

namespace Suggestion

/-- **What the suggestions of a plain grammar refer to**: notes of the vault, each once, which are those that
the links in the text lead to, in the order in which they come up first. -/
theorem notes_of_mem_ofTexts {v : Vault} (hv : v.Clean) {g : Grammar} (hg : g.Plain) {depth count : Nat}
    {gen : Generator} {texts : List String}
    (h : (Expander.expandMany ⟨⟨.builtin, v, "|||"⟩, depth⟩ g count gen).1 = .ok texts) (geist : String) :
    ∀ s ∈ ofTexts geist texts, s.notes.Nodup ∧ s.notes ⊆ v.titles ∧
      ∃ ts, Link.LinksTo s.text.toList ts ∧ s.notes = ts.eraseDups := by
  have hcovers := Expander.ends_expandMany
    (Expander.meets_expandAt_of_plain hv hg (depth + 1) originSymbol) (by simp) count gen
  rw [h] at hcovers
  intro s hs
  obtain ⟨text, htext, hs⟩ := List.mem_filterMap.mp hs
  obtain ⟨ts, hts, hlinks⟩ := hcovers text htext
  -- the suggestion has the text without white space around it, and trimming breaks no link
  have htrim : Link.LinksTo (Text.trimmed text).toList ts := by
    rw [Text.trimmed, String.toList_ofList]
    exact hlinks.trim
  unfold ofText? at hs
  simp only at hs
  split at hs
  · cases hs
  · cases hs
    refine ⟨?_, ?_, ts, htrim, ?_⟩
    · exact nodup_distinct _
    · rw [htrim.titles_eq]
      exact fun t ht => hts (mem_distinct.mp ht)
    · rw [htrim.titles_eq, distinct_eq_eraseDups]

def swap : Alternative :=
  ⟨"[p:$vault.sample_notes(2)]#p.1#, #p.0#",
    [.action "p" [.call ⟨"vault", "sample_notes", [.int 2]⟩], .reference "p" [.part 1], .literal ", ",
      .reference "p" [.part 0]]⟩

/-- The grammar with this text for its origin and nothing else. -/
def swapping : Grammar := ⟨.ofList [(originSymbol, [swap])]⟩

theorem plain_swapping : swapping.Plain := by
  have hrows : swapping.rows = [(originSymbol, [swap])] := rfl
  intro symbol as has a ha s hs
  rw [← Grammar.mem_rows, hrows, List.mem_singleton] at has
  cases has
  rw [List.mem_singleton.mp ha, ← Template.mem_nodes_iff] at hs
  simp only [swap, Template.nodes, Segment.nodes, List.cons_append, List.nil_append, List.append_nil,
    List.mem_cons, List.not_mem_nil, or_false] at hs
  obtain rfl | rfl | rfl | rfl | rfl := hs <;> simp [Segment.Plain]

/-- A pair of notes that is drawn together and named the other way round. -/
theorem notes_of_mem_ofTexts_swapping :
    ∃ s ∈ ofTexts "g" ["[[B]], [[A]]"], s.notes.Nodup ∧
      s.notes ⊆ (Vault.ofNotes [.new "A" "", .new "B" ""]).titles ∧
        ∃ ts, Link.LinksTo s.text.toList ts ∧ s.notes = ts.eraseDups := by
  have htitles : (Vault.ofNotes [.new "A" "", .new "B" ""]).titles = ["A", "B"] := by decide +kernel
  have hclean : (Vault.ofNotes [.new "A" "", .new "B" ""]).Clean := by
    intro t ht
    rw [htitles] at ht
    rcases List.mem_pair.mp ht with rfl | rfl <;>
      exact ⟨by decide, by decide, by decide, by decide, by decide⟩
  have hrun : (Expander.expandMany ⟨⟨.builtin, .ofNotes [.new "A" "", .new "B" ""], "|||"⟩, 10⟩ swapping 1
      ⟨.replicate 8 0, 0⟩).1 = .ok ["[[B]], [[A]]"] := by decide +kernel
  have hmem : ⟨"[[B]], [[A]]", ["B", "A"], "g", none⟩ ∈ ofTexts "g" ["[[B]], [[A]]"] := by decide +kernel
  exact ⟨_, hmem, notes_of_mem_ofTexts hclean plain_swapping hrun "g" _ hmem⟩

end Suggestion

end NoteMuse
