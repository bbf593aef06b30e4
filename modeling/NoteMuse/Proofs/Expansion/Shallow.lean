import NoteMuse.Proofs.Expansion.Depth
import NoteMuse.Proofs.Grammar.Closed
import NoteMuse.Proofs.Template.RoundTrip

/-!
Shallow grammars. Where the symbols and the names that they refer to can be numbered so that the numbers fall
along every reference, an expansion stays above the limit as long as this is not below the number of its
symbol; and no smaller limit is enough for every such grammar. Main statement: `not_tooDeep_of_descends`.
-/

namespace NoteMuse

/-- The number of a symbol is above the numbers of all names that it refers to, in actions too. -/
def Grammar.Descends (g : Grammar) (height : String → Nat) : Prop :=
  ∀ s r, g.RefersTo s r → height r + 1 ≤ height s

namespace Expander

open NoteMuse.Random Grammar

/-! ### Staying above the limit -/

def NotTooDeep (e : ExpansionError) : Prop := ∀ s d, e ≠ .tooDeep s d

lemma upholds_notTooDeep (x : Expander) (s : Segment) :
    x.Upholds (fun _ => True) NotTooDeep (fun _ => True) s := by
  refine upholds_errors ?_ ?_ ?_
  · rintro _ _ _ _ _ ⟨⟩
  · rintro _ _ _ ⟨⟩
  · rintro _ _ _ _ _ _ _ ⟨⟩

/-- **More levels than the number of the symbol are enough**: each level that is used up leads to names with
smaller numbers. -/
theorem meets_expandAt_of_descends {g : Grammar} {height : String → Nat} (hg : g.Descends height) (x : Expander)
    {levels : Nat} {symbol : String} (hlevels : height symbol < levels) :
    Meets (fun _ => True) NotTooDeep (x.expandAt g levels symbol) fun _ => True := by
  induction levels generalizing symbol with
  | zero => exact absurd hlevels (Nat.not_lt_zero _)
  | succ levels ih =>
    rcases alternatives_cases g symbol with hnone | ⟨as, has, hne⟩
    · rw [expandAt_none x g symbol levels hnone]
      refine meets_settled ?_
      rintro _ _ ⟨⟩
    · rw [expandAt_some x g symbol levels has hne]
      refine (meets_drawing (Q := fun _ => True) fun _ => trivial).bind fun i _ => ?_
      refine meets_renderTemplate trivial (fun _ _ _ _ => trivial) (fun n _ => upholds_notTooDeep x n)
        fun n hn r hr => ih ?_
      have hfalls := hg symbol r (.of_mem_nodes has (getD_head_mem hne i) hn hr)
      omega

end Expander

/-! ### Ladders -/

namespace Grammar

def rung (k : Nat) : String := String.ofList (List.replicate (k + 1) 'a')

/-- The only text of a rung: the ground is a letter, each other one refers to the one below. -/
def rungText : Nat → String
  | 0 => "x"
  | k + 1 => "#" ++ rung k ++ "#"

def rungTemplate : Nat → Template
  | 0 => [.literal "x"]
  | k + 1 => [.reference (rung k) []]

def rungs : Nat → SymbolTable
  | 0 => (∅ : SymbolTable).insert (rung 0) [rungText 0]
  | k + 1 => (rungs k).insert (rung (k + 1)) [rungText (k + 1)]

def ladder (d : Nat) : SymbolTable := (rungs d).insert originSymbol [rungText (d + 1)]

def ladderHeight (d : Nat) (name : String) : Nat := if name = originSymbol then d + 1 else name.length - 1

lemma rung_injective {j k : Nat} (h : rung j = rung k) : j = k := by
  have hlength := congrArg String.length h
  simpa [rung] using hlength

lemma rung_ne_originSymbol (k : Nat) : rung k ≠ originSymbol := by
  intro h
  have hmem : 'o' ∈ (rung k).toList := by
    rw [h]
    decide
  rw [rung, String.toList_ofList] at hmem
  exact absurd (List.eq_of_mem_replicate hmem) (by decide)

lemma isSymbolName_rung (k : Nat) : isSymbolName (rung k).toList = true := by
  rw [isSymbolName_iff, rung, String.toList_ofList]
  refine ⟨by simp [List.replicate_succ], fun c hc => ?_⟩
  rw [List.eq_of_mem_replicate hc]
  decide

lemma parse_rungText (k : Nat) : Template.parse (rungText k) = .ok (rungTemplate k) := by
  unfold Template.parse
  cases k with
  | zero =>
    have hprinted : "x" ∈ Template.print [.literal "x"] := by decide
    exact Template.read_of_mem_printings (by decide) (Template.mem_print.mp hprinted)
  | succ k =>
    have hnormal : Template.Normal [.reference (rung k) []] := by
      refine ⟨⟨isSymbolName_rung k, List.forall_mem_nil _⟩, ?_, trivial⟩
      rintro ⟨⟨⟩, -⟩
    have hprinted : (rungText (k + 1)).toList ∈ Template.printings none [.reference (rung k) []] := by
      simp [rungText, Template.printings, Segment.mem_printings_reference, Segment.printReference]
    exact Template.read_of_mem_printings hnormal hprinted

/-- The name stands at this height: the origin on top, or a rung. -/
def Stands (d : Nat) (name : String) (k : Nat) : Prop :=
  name = originSymbol ∧ k = d + 1 ∨ name = rung k ∧ k ≤ d

lemma Stands.ladderHeight_eq {d k : Nat} {name : String} (h : Stands d name k) : ladderHeight d name = k := by
  unfold ladderHeight
  rcases h with ⟨rfl, rfl⟩ | ⟨rfl, -⟩
  · rw [if_pos rfl]
  · rw [if_neg (rung_ne_originSymbol k)]
    simp [rung]

lemma Denotes.alternatives?_singleton {g : Grammar} {t : SymbolTable} (hg : g.Denotes t) {symbol raw : String}
    {p : Template} (htexts : t[symbol]? = some [raw]) (hparse : Template.parse raw = .ok p) :
    g.alternatives? symbol = some [⟨raw, p⟩] := by
  rw [hg.texts symbol] at htexts
  obtain ⟨as, has, hraws⟩ := Option.map_eq_some_iff.mp htexts
  obtain ⟨⟨raw', p'⟩, rest, rfl, rfl, hrest⟩ := List.map_eq_cons_iff.mp hraws
  obtain rfl := List.map_eq_nil_iff.mp hrest
  have hread := hg.templates symbol _ has _ (List.mem_singleton_self _)
  rw [hparse] at hread
  cases hread
  exact has

lemma getElem?_insert_eq_some_iff {t : SymbolTable} {s name : String} {texts texts' : List String} :
    (t.insert s texts)[name]? = some texts' ↔
      name = s ∧ texts' = texts ∨ name ≠ s ∧ t[name]? = some texts' := by
  rw [Std.ExtTreeMap.getElem?_insert]
  by_cases h : name = s
  · simp [h, eq_comm]
  · simp [h, Ne.symm h]

lemma getElem?_rungs {d : Nat} {name : String} {texts : List String} :
    (rungs d)[name]? = some texts ↔ ∃ k, (name = rung k ∧ k ≤ d) ∧ texts = [rungText k] := by
  induction d with
  | zero =>
    rw [rungs, getElem?_insert_eq_some_iff]
    simp
  | succ d ih =>
    rw [rungs, getElem?_insert_eq_some_iff, ih]
    constructor
    · rintro (⟨rfl, rfl⟩ | ⟨-, k, ⟨rfl, hk⟩, rfl⟩)
      · exact ⟨d + 1, ⟨rfl, Nat.le_refl _⟩, rfl⟩
      · exact ⟨k, ⟨rfl, Nat.le_succ_of_le hk⟩, rfl⟩
    · rintro ⟨k, ⟨rfl, hk⟩, rfl⟩
      rcases Nat.le_succ_iff.mp hk with hk | rfl
      · refine .inr ⟨fun h => ?_, k, ⟨rfl, hk⟩, rfl⟩
        have := rung_injective h
        omega
      · exact .inl ⟨rfl, rfl⟩

lemma getElem?_ladder {d : Nat} {name : String} {texts : List String} :
    (ladder d)[name]? = some texts ↔ ∃ k, Stands d name k ∧ texts = [rungText k] := by
  rw [ladder, getElem?_insert_eq_some_iff, getElem?_rungs]
  constructor
  · rintro (⟨rfl, rfl⟩ | ⟨-, k, h, rfl⟩)
    · exact ⟨d + 1, .inl ⟨rfl, rfl⟩, rfl⟩
    · exact ⟨k, .inr h, rfl⟩
  · rintro ⟨k, ⟨rfl, rfl⟩ | ⟨rfl, hk⟩, rfl⟩
    · exact .inl ⟨rfl, rfl⟩
    · exact .inr ⟨rung_ne_originSymbol k, k, ⟨rfl, hk⟩, rfl⟩

lemma within_rungTemplate {k : Nat} {r : String} {steps : List Step}
    (h : (Segment.reference r steps).Within (rungTemplate k)) : ∃ j, k = j + 1 ∧ r = rung j := by
  cases k with
  | zero => cases h.eq_of_singleton rfl
  | succ j =>
    cases h.eq_of_singleton rfl
    exact ⟨j, rfl, rfl⟩

lemma occurs_ladder {d : Nat} {name r : String} {steps : List Step}
    (h : Occurs (ladder d) name (.reference r steps)) : ∃ j, Stands d name (j + 1) ∧ r = rung j := by
  obtain ⟨texts, htexts, raw, hraw, p, hp, hs⟩ := h
  obtain ⟨k, hk, rfl⟩ := getElem?_ladder.mp htexts
  rw [List.mem_singleton.mp hraw, parse_rungText] at hp
  cases hp
  obtain ⟨j, rfl, hr⟩ := within_rungTemplate hs
  exact ⟨j, hk, hr⟩

theorem Stands.below {d k : Nat} {name : String} (h : Stands d name (k + 1)) : Stands d (rung k) k := by
  refine .inr ⟨rfl, ?_⟩
  rcases h with ⟨-, hk⟩ | ⟨-, hk⟩ <;> omega

theorem Stands.mem {d k : Nat} {name : String} (h : Stands d name k) : name ∈ ladder d :=
  Std.ExtTreeMap.mem_iff_isSome_getElem?.mpr (by rw [getElem?_ladder.mpr ⟨k, h, rfl⟩]; rfl)

/-- **The ladder is closed**: the text of each name on it is a template, whose only reference is to a rung. -/
theorem closed_ladder (d : Nat) : Closed (ladder d) where
  rows := by
    intro name texts h
    obtain ⟨k, hk, rfl⟩ := getElem?_ladder.mp h
    refine ⟨?_, List.cons_ne_nil _ _, fun raw hraw => ?_⟩
    · rcases hk with ⟨rfl, -⟩ | ⟨rfl, -⟩
      · decide
      · exact isSymbolName_rung k
    · rw [List.mem_singleton.mp hraw]
      exact ⟨_, parse_rungText k⟩
  origin := Stands.mem (.inl ⟨rfl, rfl⟩)
  references := by
    intro name r steps h
    obtain ⟨j, hj, rfl⟩ := occurs_ladder h
    exact .inl hj.below.mem

section Denotes

variable {g : Grammar} {d : Nat} (hg : g.Denotes (ladder d))

include hg

lemma descends_ladder : g.Descends (ladderHeight d) := by
  rintro name r ⟨as, has, a, ha, steps, hs⟩
  obtain ⟨j, hj, rfl⟩ := occurs_ladder (hg.occurs_iff.mpr ⟨as, has, a, ha, hs⟩)
  rw [hj.ladderHeight_eq, hj.below.ladderHeight_eq]

lemma alternatives?_ladder {name : String} {k : Nat} (h : Stands d name k) :
    g.alternatives? name = some [⟨rungText k, rungTemplate k⟩] :=
  hg.alternatives?_singleton (getElem?_ladder.mpr ⟨k, h, rfl⟩) (parse_rungText k)

end Denotes

end Grammar

namespace Expander

open NoteMuse.Random Grammar

/-- **With too few levels a ladder is climbed down to the limit**: an expansion of the name at height `k` with
no more than `k` levels fails for the limit at the rung where they are used up. -/
theorem meets_expandAt_ladder {g : Grammar} {d : Nat} (hg : g.Denotes (ladder d)) (x : Expander) {levels k : Nat}
    {name : String} (hk : Stands d name k) (hlevels : levels ≤ k) :
    Meets (· = []) (fun e => ∃ s, e = .tooDeep s x.maxDepth) (x.expandAt g levels name) fun _ => False := by
  induction levels generalizing k name with
  | zero =>
    rw [expandAt_zero]
    exact meets_settled ⟨name, rfl⟩
  | succ levels ih =>
    obtain ⟨j, rfl⟩ : ∃ j, k = j + 1 := ⟨k - 1, by omega⟩
    rw [expandAt_singleton x g name levels (alternatives?_ladder hg hk)]
    refine (meets_drawing (Q := fun _ => True) fun _ => trivial).bind fun _ _ => ?_
    rw [rungTemplate, renderTemplate_cons, renderSegment_reference]
    have hbelow := ih hk.below (Nat.le_of_succ_le_succ hlevels)
    have hunbound : ∀ (b : Bindings) (v : String), b = [] → b.lookup (rung j) = some v → False := by
      rintro _ v rfl ⟨⟩
    exact ((meets_named hunbound hbelow).bind fun _ => False.elim).bind fun _ => False.elim

/-- **The limit that a grammar needs.** Where numbers fall along every reference of a grammar, no expansion of
the origin comes to a limit that is not below its number, nor does any of several, whatever the functions, the
notes and the draws. No smaller limit is enough for all of them: there are grammars whose origin has the number
`d + 1`, under numbers that fall in this way, and whose every expansion fails for the limit `d`. -/
theorem not_tooDeep_of_descends :
    (∀ (g : Grammar) (height : String → Nat), g.Descends height →
      ∀ x : Expander, height originSymbol ≤ x.maxDepth →
        ∀ gen s d, (x.expandOrigin g gen).1 ≠ .error (.tooDeep s d) ∧
          ∀ count, (x.expandMany g count gen).1 ≠ .error (.tooDeep s d)) ∧
    ∀ d, ∃ t g height, ofTable t = .ok g ∧ g.Descends height ∧ height originSymbol = d + 1 ∧
      ∀ host gen, (∃ s, (expandOrigin ⟨host, d⟩ g gen).1 = .error (.tooDeep s d)) ∧
        ∀ count, ∃ s, (expandMany ⟨host, d⟩ g (count + 1) gen).1 = .error (.tooDeep s d) := by
  refine ⟨fun g height hg x hlimit gen s d => ?_, fun d => ?_⟩
  · have hmeets := meets_expandAt_of_descends hg x (Nat.lt_succ_of_le hlimit)
    constructor
    · intro he
      have hends := ends_expandSymbol hmeets trivial gen
      rw [← expandOrigin, he] at hends
      exact hends s d rfl
    · intro count he
      have hends := ends_expandMany hmeets trivial count gen
      rw [he] at hends
      exact hends s d rfl
  -- a ladder of `d + 1` rungs needs one level more than the limit has
  · obtain ⟨g, h⟩ := exists_ofTable_iff.mpr (closed_ladder d)
    have hg := (ofTable_eq_ok_iff.mp h).2
    have htop : Stands d originSymbol (d + 1) := .inl ⟨rfl, rfl⟩
    refine ⟨ladder d, g, ladderHeight d, h, descends_ladder hg, htop.ladderHeight_eq, fun host gen => ?_⟩
    have horigin : ∃ s, (expandOrigin ⟨host, d⟩ g gen).1 = .error (.tooDeep s d) := by
      have hends := ends_expandSymbol (meets_expandAt_ladder hg ⟨host, d⟩ htop (Nat.le_refl _)) rfl gen
      rw [← expandOrigin] at hends
      cases hr : (expandOrigin ⟨host, d⟩ g gen).1 with
      | ok text =>
        rw [hr] at hends
        exact hends.elim
      | error e =>
        rw [hr] at hends
        obtain ⟨s, rfl⟩ := hends
        exact ⟨s, rfl⟩
    refine ⟨horigin, fun count => ?_⟩
    obtain ⟨s, hs⟩ := horigin
    refine ⟨s, ?_⟩
    rw [expandMany_succ]
    generalize expandOrigin ⟨host, d⟩ g gen = p at hs
    obtain ⟨r, gen⟩ := p
    obtain rfl : r = _ := hs
    rfl

/-- A grammar that comes to one symbol twice, by way of an action and of another symbol. -/
def shallow : Grammar :=
  ⟨.ofList ([("a", [⟨"#b#", [.reference "b" []]⟩]), ("b", [⟨"x", [.literal "x"]⟩]),
    (originSymbol, [⟨"[n:#b#]#n##a#", [.action "n" [.reference "b" []], .reference "n" [],
      .reference "a" []]⟩])] : List (String × List Alternative))⟩

/-- Two levels below the origin are enough for it. -/
def shallowHeight (name : String) : Nat := if name = originSymbol then 2 else if name = "a" then 1 else 0

lemma descends_shallow : shallow.Descends shallowHeight := by
  have hall : ∀ s ∈ shallow.names, ∀ r ∈ shallow.referencesOf s, shallowHeight r + 1 ≤ shallowHeight s := by
    decide +kernel
  exact fun s r h => hall s h.symbol_mem_names r (mem_referencesOf.mpr h)

lemma expandOrigin_shallow (gen : Generator) :
    (expandOrigin ⟨bare, 2⟩ shallow gen).1 = .ok "xx" ∧
      (expandOrigin ⟨bare, 1⟩ shallow gen).1 = .error (.tooDeep "b" 1) := by
  have horigin : shallow.alternatives? originSymbol = some [⟨"[n:#b#]#n##a#", [.action "n" [.reference "b" []],
    .reference "n" [], .reference "a" []]⟩] := rfl
  have ha : shallow.alternatives? "a" = some [⟨"#b#", [.reference "b" []]⟩] := rfl
  have hb : shallow.alternatives? "b" = some [⟨"x", [.literal "x"]⟩] := rfl
  simp only [expandOrigin, expandSymbol_eq, expandAt_singleton _ _ _ _ horigin, expandAt_singleton _ _ _ _ ha,
    expandAt_singleton _ _ _ _ hb, expandAt_zero, drawing, renderTemplate_nil, renderTemplate_cons,
    renderSegment_reference, renderSegment_action, renderSegment_literal, bind_eq, named, binding, settled]
  exact ⟨rfl, rfl⟩

/-- The limit is just high enough for the expansion to give a text, and a smaller one is not. -/
theorem not_tooDeep_of_descends_shallow :
    shallow.Descends shallowHeight ∧ shallowHeight originSymbol ≤ 2 ∧
      (∀ s d, (expandOrigin ⟨bare, 2⟩ shallow ⟨.replicate 8 0, 0⟩).1 ≠ .error (.tooDeep s d) ∧
        ∀ count, (expandMany ⟨bare, 2⟩ shallow count ⟨.replicate 8 0, 0⟩).1 ≠ .error (.tooDeep s d)) ∧
      (expandOrigin ⟨bare, 2⟩ shallow ⟨.replicate 8 0, 0⟩).1 = .ok "xx" ∧
      (expandOrigin ⟨bare, 1⟩ shallow ⟨.replicate 8 0, 0⟩).1 = .error (.tooDeep "b" 1) :=
  ⟨descends_shallow, by decide,
    not_tooDeep_of_descends.1 shallow shallowHeight descends_shallow ⟨bare, 2⟩ (by decide) _,
    expandOrigin_shallow _⟩

end Expander

end NoteMuse
