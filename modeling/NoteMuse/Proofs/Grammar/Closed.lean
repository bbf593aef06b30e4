import NoteMuse.Proofs.Grammar.Rows
import NoteMuse.Proofs.Ordered
import NoteMuse.Proofs.Template.First

/-!
Which symbol tables are grammars. A table is one when its keys are names of symbols, every symbol has
alternatives, all of them are templates, the origin is among them, and every reference names a symbol or what
an action binds somewhere; any other table is refused for the first of its faults. Main statement:
`ofTable_exact`.
-/

namespace NoteMuse

namespace Grammar

/-! ### What a table says -/

structure SoundRow (symbol : String) (texts : List String) : Prop where
  named : isSymbolName symbol.toList = true
  nonempty : texts ≠ []
  readable : ∀ raw ∈ texts, ∃ p, Template.parse raw = .ok p

/-- A fault that a row has of its own: the name comes before a want of alternatives, and this before the
first text that is no template. -/
inductive RowFault (symbol : String) (texts : List String) : GrammarError → Prop
  | name (h : isSymbolName symbol.toList = false) :
    RowFault symbol texts (.template symbol (.invalidName symbol))
  | empty (hname : isSymbolName symbol.toList = true) (h : texts = []) :
    RowFault symbol texts (.emptySymbol symbol)
  | text (hname : isSymbolName symbol.toList = true) {before after : List String} {raw : String}
    {cause : TemplateError} (h : texts = before ++ raw :: after) (hraw : Template.parse raw = .error cause)
    (hbefore : ∀ s ∈ before, ∃ p, Template.parse s = .ok p) : RowFault symbol texts (.template symbol cause)

/-- The segment stands in an alternative of the symbol, at the top or in an action, however deep. -/
def Occurs (t : SymbolTable) (symbol : String) (s : Segment) : Prop :=
  ∃ texts, t[symbol]? = some texts ∧ ∃ raw ∈ texts, ∃ p, Template.parse raw = .ok p ∧ s.Within p

/-- The name is a symbol of the table, or some action anywhere in it binds the name. -/
def Defined (t : SymbolTable) (name : String) : Prop :=
  name ∈ t ∨ ∃ symbol body, Occurs t symbol (.action name body)

/-- The table is closed. -/
structure Closed (t : SymbolTable) : Prop where
  rows : ∀ symbol texts, t[symbol]? = some texts → SoundRow symbol texts
  origin : originSymbol ∈ t
  references : ∀ symbol name steps, Occurs t symbol (.reference name steps) → Defined t name

/-- **Why a table is refused**: for the smallest symbol whose row has a fault of its own; if there is none, for
want of an origin; or else for the smallest symbol with a reference to a name that is not defined, and there
for the first such reference of the first alternative that has one. -/
inductive Refused (t : SymbolTable) : GrammarError → Prop
  | row {symbol : String} {texts : List String} {e : GrammarError} (h : t[symbol]? = some texts)
    (hfault : RowFault symbol texts e)
    (hfirst : ∀ symbol' texts', t[symbol']? = some texts' → symbol' < symbol → SoundRow symbol' texts') :
    Refused t e
  | origin (hrows : ∀ symbol texts, t[symbol]? = some texts → SoundRow symbol texts)
    (h : originSymbol ∉ t) : Refused t .missingOrigin
  | reference (hrows : ∀ symbol texts, t[symbol]? = some texts → SoundRow symbol texts)
    (horigin : originSymbol ∈ t) {symbol name raw : String} {before after : List String} {p : Template}
    (h : t[symbol]? = some (before ++ raw :: after)) (hraw : Template.parse raw = .ok p)
    (hname : p.FirstReference (fun r => ¬Defined t r) name)
    (hbefore : ∀ raw' ∈ before, ∀ p', Template.parse raw' = .ok p' →
      ∀ r steps, (Segment.reference r steps).Within p' → Defined t r)
    (hfirst : ∀ symbol' r steps, symbol' < symbol → Occurs t symbol' (.reference r steps) → Defined t r) :
    Refused t (.undefinedSymbol symbol name)

/-- **The grammar of a table** has its symbols, each with one alternative for every text, in their order. -/
structure Denotes (g : Grammar) (t : SymbolTable) : Prop where
  texts : ∀ symbol, t[symbol]? = (g.alternatives? symbol).map fun as => as.map Alternative.raw
  templates : ∀ symbol as, g.alternatives? symbol = some as →
    ∀ a ∈ as, Template.parse a.raw = .ok a.template

/-! ### Rows -/

variable {t : SymbolTable} {g : Grammar} {symbol : String} {texts : List String}

lemma read_eq_ok_iff {raw : String} {a : Alternative} :
    Alternative.read symbol raw = .ok a ↔ a.raw = raw ∧ Template.parse raw = .ok a.template := by
  unfold Alternative.read
  obtain ⟨raw', p'⟩ := a
  cases Template.parse raw with
  | ok p => simp [eq_comm]
  | error e => simp

lemma read_eq_error_iff {raw : String} {e : GrammarError} :
    Alternative.read symbol raw = .error e ↔
      ∃ cause, Template.parse raw = .error cause ∧ e = .template symbol cause := by
  unfold Alternative.read
  cases Template.parse raw with
  | ok p => simp
  | error cause => simp [eq_comm]

lemma exists_read_iff {raw : String} :
    (∃ a, Alternative.read symbol raw = .ok a) ↔ ∃ p, Template.parse raw = .ok p := by
  simp only [read_eq_ok_iff]
  exact ⟨fun ⟨a, _, h⟩ => ⟨a.template, h⟩, fun ⟨p, h⟩ => ⟨⟨raw, p⟩, rfl, h⟩⟩

lemma readRow_of_named (hname : isSymbolName symbol.toList = true) (hne : texts ≠ []) :
    readRow (symbol, texts) = (texts.mapM (Alternative.read symbol)).map fun as => (symbol, as) := by
  unfold readRow
  rw [if_neg (by simpa using hname), if_neg (by simpa using hne)]

lemma readRow_eq_error_iff {e : GrammarError} :
    readRow (symbol, texts) = .error e ↔ RowFault symbol texts e := by
  constructor
  · intro h
    -- the checks in their order: the name, whether there are texts, the texts
    by_cases hname : isSymbolName symbol.toList = true
    · by_cases hne : texts = []
      · subst hne
        unfold readRow at h
        rw [if_neg (by simpa using hname)] at h
        cases h
        exact .empty hname rfl
      · rw [readRow_of_named hname hne, map_eq_error_iff, mapM_eq_error_iff] at h
        obtain ⟨before, raw, after, htexts, he, hbefore⟩ := h
        obtain ⟨cause, hraw, rfl⟩ := read_eq_error_iff.mp he
        exact .text hname htexts hraw fun s hs => exists_read_iff.mp (hbefore s hs)
    · unfold readRow at h
      rw [if_pos (by simpa using hname)] at h
      cases h
      exact .name (by simpa using hname)
  · intro h
    cases h with
    | name h =>
      unfold readRow
      rw [if_pos (by simpa using h)]
    | empty hname h =>
      unfold readRow
      rw [if_neg (by simpa using hname), if_pos (by simpa using h)]
    | text hname h hraw hbefore =>
      have hne : texts ≠ [] := by rw [h]; simp
      rw [readRow_of_named hname hne, map_eq_error_iff, mapM_eq_error_iff]
      exact ⟨_, _, _, h, read_eq_error_iff.mpr ⟨_, hraw, rfl⟩, fun s hs => exists_read_iff.mpr (hbefore s hs)⟩

lemma SoundRow.not_rowFault (h : SoundRow symbol texts) (e : GrammarError) : ¬RowFault symbol texts e := by
  rintro (hname | ⟨-, hne⟩ | ⟨-, rfl, hraw, -⟩)
  · rw [h.named] at hname
    cases hname
  · exact h.nonempty hne
  · obtain ⟨p, hp⟩ := h.readable _ (List.mem_append_right _ (List.mem_cons_self ..))
    rw [hp] at hraw
    cases hraw

/-- What is read from texts are alternatives that have these texts and are templates of them. -/
theorem forall₂_read_iff {as : List Alternative} :
    List.Forall₂ (fun raw a => Alternative.read symbol raw = .ok a) texts as ↔
      as.map Alternative.raw = texts ∧ ∀ a ∈ as, Template.parse a.raw = .ok a.template := by
  induction as generalizing texts with
  | nil =>
    rw [List.forall₂_nil_right_iff]
    simp [eq_comm]
  | cons a as ih =>
    rw [List.forall₂_cons_right_iff]
    constructor
    · rintro ⟨raw, rest, ha, has, rfl⟩
      obtain ⟨rfl, htemplate⟩ := read_eq_ok_iff.mp ha
      obtain ⟨rfl, hrest⟩ := ih.mp has
      exact ⟨rfl, List.forall_mem_cons.mpr ⟨htemplate, hrest⟩⟩
    · rintro ⟨rfl, h⟩
      obtain ⟨htemplate, hrest⟩ := List.forall_mem_cons.mp h
      exact ⟨_, _, read_eq_ok_iff.mpr ⟨rfl, htemplate⟩, ih.mpr ⟨rfl, hrest⟩, rfl⟩

lemma of_readRow {row : String × List Alternative} (h : readRow (symbol, texts) = .ok row) :
    SoundRow symbol texts ∧ row.1 = symbol ∧ row.2.map Alternative.raw = texts ∧
      ∀ a ∈ row.2, Template.parse a.raw = .ok a.template := by
  have hname : isSymbolName symbol.toList = true := by
    by_contra hname
    rw [readRow_eq_error_iff.mpr (.name (by simpa using hname))] at h
    cases h
  have hne : texts ≠ [] := by
    intro hne
    rw [readRow_eq_error_iff.mpr (.empty hname hne)] at h
    cases h
  rw [readRow_of_named hname hne, map_eq_ok_iff] at h
  obtain ⟨as, has, rfl⟩ := h
  rw [mapM_eq_ok_iff, forall₂_read_iff] at has
  obtain ⟨rfl, htemplates⟩ := has
  refine ⟨⟨hname, hne, fun raw hraw => ?_⟩, rfl, rfl, htemplates⟩
  obtain ⟨a, ha, rfl⟩ := List.mem_map.mp hraw
  exact ⟨a.template, htemplates a ha⟩

lemma exists_readRow_iff : (∃ row, readRow (symbol, texts) = .ok row) ↔ SoundRow symbol texts := by
  constructor
  · rintro ⟨row, h⟩
    exact (of_readRow h).1
  · intro h
    cases hr : readRow (symbol, texts) with
    | ok row => exact ⟨row, rfl⟩
    | error e => exact absurd (readRow_eq_error_iff.mp hr) (h.not_rowFault e)

/-! ### The grammar of a table -/

/-- A table has one grammar at most. -/
theorem Denotes.unique {g' : Grammar} (h : g.Denotes t) (h' : g'.Denotes t) : g = g' := by
  obtain ⟨symbols⟩ := g
  obtain ⟨symbols'⟩ := g'
  congr 1
  refine Std.ExtTreeMap.ext_getElem? fun symbol => ?_
  have htexts := (h.texts symbol).symm.trans (h'.texts symbol)
  show alternatives? ⟨symbols⟩ symbol = alternatives? ⟨symbols'⟩ symbol
  cases has : alternatives? ⟨symbols⟩ symbol with
  | none =>
    rw [has] at htexts
    exact (Option.map_eq_none_iff.mp htexts.symm).symm
  | some as =>
    rw [has] at htexts
    obtain ⟨as', has', hraws⟩ := Option.map_eq_some_iff.mp htexts.symm
    -- both read the same texts, and reading gives one alternative at most for each
    have hread : List.Forall₂ (fun raw a => Alternative.read symbol raw = .ok a) _ as :=
      forall₂_read_iff.mpr ⟨rfl, h.templates symbol as has⟩
    have hread' : List.Forall₂ (fun raw a => Alternative.read symbol raw = .ok a) _ as' :=
      forall₂_read_iff.mpr ⟨hraws, h'.templates symbol as' has'⟩
    have hunique : Relator.RightUnique fun raw a => Alternative.read symbol raw = .ok a :=
      fun _ _ _ ha hb => Except.ok.inj (ha.symm.trans hb)
    rw [has', List.right_unique_forall₂' hunique hread hread']

lemma keys_of_rows {entries : List (String × List String)} {rows : List (String × List Alternative)}
    (h : List.Forall₂ (fun e row => readRow e = .ok row) entries rows) :
    rows.map Prod.fst = entries.map Prod.fst := by
  induction h with
  | nil => rfl
  | cons hrow _ ih => rw [List.map_cons, List.map_cons, (of_readRow hrow).2.1, ih]

lemma denotes_of_rows {rows : List (String × List Alternative)} (h : t.toList.mapM readRow = .ok rows) :
    Denotes ⟨.ofList rows⟩ t := by
  have hkeys := keys_of_rows (mapM_eq_ok_iff.mp h)
  -- no row overwrites another one, since a table has each symbol once
  have hdistinct : rows.Pairwise fun a b => ¬compare a.1 b.1 = .eq := by
    have hentries := t.distinct_keys_toList
    rw [← List.pairwise_map (f := Prod.fst) (R := fun a b => ¬compare a b = .eq)] at hentries ⊢
    rwa [hkeys]
  have hsome : ∀ symbol texts, t[symbol]? = some texts → ∃ as,
      alternatives? ⟨.ofList rows⟩ symbol = some as ∧ readRow (symbol, texts) = .ok (symbol, as) := by
    intro symbol texts htexts
    obtain ⟨row, hmem, hrow⟩ :=
      exists_mem_of_mapM h (Std.ExtTreeMap.mem_toList_iff_getElem?_eq_some.mpr htexts)
    obtain rfl := (of_readRow hrow).2.1
    exact ⟨row.2, Std.ExtTreeMap.getElem?_ofList_of_mem Std.ReflCmp.compare_self hdistinct hmem, hrow⟩
  have hnone : ∀ symbol, t[symbol]? = none → alternatives? ⟨.ofList rows⟩ symbol = none := by
    intro symbol htexts
    refine Std.ExtTreeMap.getElem?_ofList_of_contains_eq_false ?_
    rw [hkeys, Std.ExtTreeMap.map_fst_toList_eq_keys]
    simpa using htexts
  constructor
  · intro symbol
    cases htexts : t[symbol]? with
    | none => rw [hnone symbol htexts, Option.map_none]
    | some texts =>
      obtain ⟨as, has, hrow⟩ := hsome symbol texts htexts
      rw [has, Option.map_some, (of_readRow hrow).2.2.1]
  · intro symbol as has
    cases htexts : t[symbol]? with
    | none =>
      rw [hnone symbol htexts] at has
      cases has
    | some texts =>
      obtain ⟨as', has', hrow⟩ := hsome symbol texts htexts
      rw [has] at has'
      cases has'
      exact (of_readRow hrow).2.2.2

/-- All rows are read exactly when none has a fault of its own. -/
theorem exists_rows_iff :
    (∃ rows, t.toList.mapM readRow = .ok rows) ↔
      ∀ symbol texts, t[symbol]? = some texts → SoundRow symbol texts := by
  constructor
  · rintro ⟨rows, h⟩ symbol texts htexts
    obtain ⟨row, -, hrow⟩ :=
      exists_mem_of_mapM h (Std.ExtTreeMap.mem_toList_iff_getElem?_eq_some.mpr htexts)
    exact (of_readRow hrow).1
  · intro h
    cases hrows : t.toList.mapM readRow with
    | ok rows => exact ⟨rows, rfl⟩
    | error e =>
      obtain ⟨symbol, texts, htexts, he, -⟩ := mapM_toList_eq_error_iff.mp hrows
      exact absurd (readRow_eq_error_iff.mp he) ((h symbol texts htexts).not_rowFault e)

/-! ### References -/

section References

variable (hg : g.Denotes t)

include hg

theorem Denotes.occurs_iff {s : Segment} :
    Occurs t symbol s ↔ ∃ as, g.alternatives? symbol = some as ∧ ∃ a ∈ as, s.Within a.template := by
  unfold Occurs
  rw [hg.texts symbol]
  constructor
  · rintro ⟨texts, htexts, raw, hraw, p, hp, hs⟩
    obtain ⟨as, has, rfl⟩ := Option.map_eq_some_iff.mp htexts
    obtain ⟨a, ha, rfl⟩ := List.mem_map.mp hraw
    rw [hg.templates symbol as has a ha] at hp
    cases hp
    exact ⟨as, has, a, ha, hs⟩
  · rintro ⟨as, has, a, ha, hs⟩
    rw [has]
    exact ⟨_, rfl, a.raw, List.mem_map_of_mem ha, a.template, hg.templates symbol as has a ha, hs⟩

theorem Denotes.mem_iff : symbol ∈ g.symbols ↔ symbol ∈ t := by
  rw [Std.ExtTreeMap.mem_iff_isSome_getElem?, Std.ExtTreeMap.mem_iff_isSome_getElem?, hg.texts symbol,
    Option.isSome_map]
  rfl

lemma Denotes.defined_iff {name : String} :
    (g.symbols.contains name || g.bindings.contains name) = true ↔ Defined t name := by
  have hbound : name ∈ g.bindings ↔ ∃ symbol body, Occurs t symbol (.action name body) := by
    unfold bindings
    simp only [hg.occurs_iff, List.mem_flatMap, Prod.exists, mem_rows, Template.mem_bindings_iff,
      Template.mem_nodes_iff]
    constructor
    · rintro ⟨symbol, as, has, a, ha, body, hs⟩
      exact ⟨symbol, body, as, has, a, ha, hs⟩
    · rintro ⟨symbol, body, as, has, a, ha, hs⟩
      exact ⟨symbol, as, has, a, ha, body, hs⟩
  rw [Bool.or_eq_true, List.contains_iff_mem, hbound, Std.ExtTreeMap.contains_iff_mem, hg.mem_iff]
  rfl

/-- A template in which every reference is to a defined name, as the check sees it. -/
theorem Denotes.find?_eq_none_iff {p : Template} :
    (p.references.find? fun r => !(g.symbols.contains r || g.bindings.contains r)) = none ↔
      ∀ r steps, (Segment.reference r steps).Within p → Defined t r := by
  rw [Template.find?_references_eq_none_iff]
  refine forall₂_congr fun r steps => imp_congr_right fun _ => ?_
  rw [← hg.defined_iff, Bool.not_eq_true, Bool.not_eq_false']

/-- The first reference of a template to a name that is not defined, as the check sees it. -/
theorem Denotes.find?_eq_some_iff {p : Template} {name : String} :
    (p.references.find? fun r => !(g.symbols.contains r || g.bindings.contains r)) = some name ↔
      p.FirstReference (fun r => ¬Defined t r) name := by
  have hundefined : (fun r => (!(g.symbols.contains r || g.bindings.contains r)) = true) =
      fun r => ¬Defined t r := by
    funext r
    rw [← hg.defined_iff, Bool.not_eq_true', Bool.not_eq_true]
  rw [Template.find?_references_eq_some_iff, hundefined]

lemma Denotes.firstUndefined?_eq_none_iff :
    g.firstUndefined? = none ↔
      ∀ symbol name steps, Occurs t symbol (.reference name steps) → Defined t name := by
  unfold firstUndefined?
  simp only [List.findSome?_eq_none_iff, Option.map_eq_none_iff, Prod.forall, mem_rows,
    hg.find?_eq_none_iff, hg.occurs_iff]
  constructor
  · rintro h symbol name steps ⟨as, has, a, ha, hs⟩
    exact h symbol as has a ha name steps hs
  · exact fun h symbol as has a ha name steps hs => h symbol name steps ⟨as, has, a, ha, hs⟩

/-- **What the check finds**: the smallest symbol with a reference to a name that is not defined, and the
first such reference of its first alternative that has one. -/
theorem Denotes.firstUndefined?_eq_some_iff {name : String} :
    g.firstUndefined? = some (symbol, name) ↔
      (∃ before raw after p, t[symbol]? = some (before ++ raw :: after) ∧ Template.parse raw = .ok p ∧
        p.FirstReference (fun r => ¬Defined t r) name ∧
        ∀ raw' ∈ before, ∀ p', Template.parse raw' = .ok p' →
          ∀ r steps, (Segment.reference r steps).Within p' → Defined t r) ∧
      ∀ symbol' r steps, symbol' < symbol → Occurs t symbol' (.reference r steps) → Defined t r := by
  unfold firstUndefined?
  simp only
  rw [rows, findSome?_toList_eq_some_iff]
  simp only [List.findSome?_eq_none_iff, List.findSome?_eq_some_iff, Option.map_eq_some_iff,
    Option.map_eq_none_iff, hg.find?_eq_none_iff, hg.find?_eq_some_iff, Prod.mk.injEq]
  constructor
  · rintro ⟨symbol', as, has, ⟨before, a, after, rfl, ⟨r, hr, rfl, rfl⟩, hbefore⟩, hfirst⟩
    have hparse := hg.templates _ _ has
    refine ⟨⟨before.map Alternative.raw, a.raw, after.map Alternative.raw, a.template, ?_,
      hparse a (by simp), hr, ?_⟩, ?_⟩
    · rw [hg.texts, alternatives?, has, Option.map_some, List.map_append, List.map_cons]
    · intro raw' hraw' p' hp'
      obtain ⟨a', ha', rfl⟩ := List.mem_map.mp hraw'
      rw [hparse a' (List.mem_append_left _ ha')] at hp'
      cases hp'
      exact hbefore a' ha'
    · intro symbol'' r' steps hlt hoccurs
      obtain ⟨as', has', a', ha', hs⟩ := hg.occurs_iff.mp hoccurs
      exact hfirst symbol'' as' has' hlt a' ha' r' steps hs
  · rintro ⟨⟨before, raw, after, p, htexts, hraw, hname, hbefore⟩, hfirst⟩
    -- back from texts to the alternatives that were read from them
    rw [hg.texts] at htexts
    obtain ⟨as, has, hraws⟩ := Option.map_eq_some_iff.mp htexts
    obtain ⟨first, rest, rfl, rfl, hrest⟩ := List.map_eq_append_iff.mp hraws
    obtain ⟨a, last, rfl, rfl, rfl⟩ := List.map_eq_cons_iff.mp hrest
    have hparse := hg.templates symbol _ has
    rw [hparse a (by simp)] at hraw
    cases hraw
    refine ⟨symbol, _, has, ⟨first, a, last, rfl, ⟨name, hname, rfl, rfl⟩, ?_⟩, ?_⟩
    · intro a' ha'
      exact hbefore a'.raw (List.mem_map_of_mem ha') a'.template (hparse a' (List.mem_append_left _ ha'))
    · intro symbol' as' has' hlt a' ha' r steps hs
      exact hfirst symbol' r steps hlt (hg.occurs_iff.mpr ⟨as', has', a', ha', hs⟩)

lemma Denotes.checkClosed_eq_ok_iff {g' : Grammar} :
    g.checkClosed = .ok g' ↔ g = g' ∧ originSymbol ∈ t ∧
      ∀ symbol name steps, Occurs t symbol (.reference name steps) → Defined t name := by
  rw [← hg.firstUndefined?_eq_none_iff, ← hg.mem_iff, ← Std.ExtTreeMap.contains_iff_mem]
  unfold checkClosed
  cases g.symbols.contains originSymbol with
  | false => simp
  | true => cases g.firstUndefined? <;> simp

lemma Denotes.checkClosed_eq_error_iff {e : GrammarError} :
    g.checkClosed = .error e ↔
      originSymbol ∉ t ∧ e = .missingOrigin ∨
        originSymbol ∈ t ∧ ∃ symbol name, g.firstUndefined? = some (symbol, name) ∧
          e = .undefinedSymbol symbol name := by
  rw [← hg.mem_iff, ← Std.ExtTreeMap.contains_iff_mem]
  unfold checkClosed
  cases g.symbols.contains originSymbol with
  | false => simp [eq_comm]
  | true =>
    cases g.firstUndefined? with
    | none => simp
    | some found => simp [eq_comm, Prod.ext_iff]

end References

/-! ### All tables -/

theorem ofTable_eq_ok_iff : ofTable t = .ok g ↔ Closed t ∧ g.Denotes t := by
  constructor
  · intro h
    cases hrows : t.toList.mapM readRow with
    | error e =>
      unfold ofTable at h
      rw [hrows] at h
      cases h
    | ok rows =>
      have hg := denotes_of_rows hrows
      rw [ofTable_of_rows hrows, hg.checkClosed_eq_ok_iff] at h
      obtain ⟨rfl, horigin, hreferences⟩ := h
      exact ⟨⟨exists_rows_iff.mp ⟨rows, hrows⟩, horigin, hreferences⟩, hg⟩
  · rintro ⟨hclosed, hg⟩
    obtain ⟨rows, hrows⟩ := exists_rows_iff.mpr hclosed.rows
    have hread := denotes_of_rows hrows
    rw [ofTable_of_rows hrows, hread.checkClosed_eq_ok_iff]
    exact ⟨hread.unique hg, hclosed.origin, hclosed.references⟩

theorem exists_ofTable_iff : (∃ g, ofTable t = .ok g) ↔ Closed t := by
  constructor
  · rintro ⟨g, h⟩
    exact (ofTable_eq_ok_iff.mp h).1
  · intro h
    obtain ⟨rows, hrows⟩ := exists_rows_iff.mpr h.rows
    exact ⟨_, ofTable_eq_ok_iff.mpr ⟨h, denotes_of_rows hrows⟩⟩

lemma ofTable_eq_error_iff {e : GrammarError} : ofTable t = .error e ↔ Refused t e := by
  constructor
  · intro h
    -- the rows come first: only when all are read the references are looked at
    cases hrows : t.toList.mapM readRow with
    | error e' =>
      unfold ofTable at h
      rw [hrows] at h
      cases h
      obtain ⟨symbol, texts, htexts, he, hfirst⟩ := mapM_toList_eq_error_iff.mp hrows
      exact .row htexts (readRow_eq_error_iff.mp he) fun symbol' texts' htexts' hlt =>
        exists_readRow_iff.mp (hfirst symbol' texts' htexts' hlt)
    | ok rows =>
      have hg := denotes_of_rows hrows
      have hsound := exists_rows_iff.mp ⟨rows, hrows⟩
      rw [ofTable_of_rows hrows, hg.checkClosed_eq_error_iff] at h
      obtain ⟨horigin, rfl⟩ | ⟨horigin, symbol, name, hfound, rfl⟩ := h
      · exact .origin hsound horigin
      · obtain ⟨⟨before, raw, after, p, htexts, hraw, hname, hbefore⟩, hfirst⟩ :=
          hg.firstUndefined?_eq_some_iff.mp hfound
        exact .reference hsound horigin htexts hraw hname hbefore hfirst
  · intro h
    cases h with
    | row htexts hfault hfirst =>
      have herror : t.toList.mapM readRow = .error e :=
        mapM_toList_eq_error_iff.mpr ⟨_, _, htexts, readRow_eq_error_iff.mpr hfault,
          fun symbol' texts' htexts' hlt => exists_readRow_iff.mpr (hfirst symbol' texts' htexts' hlt)⟩
      unfold ofTable
      rw [herror]
    | origin hsound horigin =>
      obtain ⟨rows, hrows⟩ := exists_rows_iff.mpr hsound
      rw [ofTable_of_rows hrows, (denotes_of_rows hrows).checkClosed_eq_error_iff]
      exact .inl ⟨horigin, rfl⟩
    | reference hsound horigin htexts hraw hname hbefore hfirst =>
      obtain ⟨rows, hrows⟩ := exists_rows_iff.mpr hsound
      have hg := denotes_of_rows hrows
      rw [ofTable_of_rows hrows, hg.checkClosed_eq_error_iff]
      exact .inr ⟨horigin, _, _, hg.firstUndefined?_eq_some_iff.mpr
        ⟨⟨_, _, _, _, htexts, hraw, hname, hbefore⟩, hfirst⟩, rfl⟩

/-- **Which tables are grammars, and why the others are not.** A table gives a grammar exactly when it is
closed, and then it is the grammar of it: the same symbols, with the texts in their order and the templates
that these denote. It is refused exactly for the first of its faults. -/
theorem ofTable_exact (t : SymbolTable) :
    ((∃ g, ofTable t = .ok g) ↔ Closed t) ∧ (∀ g, ofTable t = .ok g ↔ Closed t ∧ g.Denotes t) ∧
      ∀ e, ofTable t = .error e ↔ Refused t e :=
  ⟨exists_ofTable_iff, fun _ => ofTable_eq_ok_iff, fun _ => ofTable_eq_error_iff⟩

end Grammar

end NoteMuse
