import NoteMuse.Grammar

/-!
The rows of a grammar: its symbols with their alternatives, and the calls that stand in them. The smallest
grammars have one row with one alternative.
-/

namespace NoteMuse.Grammar

variable {g : Grammar} {symbol : String}

theorem mem_rows {as : List Alternative} :
    (symbol, as) ∈ g.rows ↔ g.alternatives? symbol = some as :=
  Std.ExtTreeMap.mem_toList_iff_getElem?_eq_some

theorem mem_names : symbol ∈ g.names ↔ ∃ as, g.alternatives? symbol = some as := by
  unfold names alternatives?
  rw [Std.ExtTreeMap.mem_keys, Std.ExtTreeMap.mem_iff_isSome_getElem?, Option.isSome_iff_exists]

theorem mem_calls {c : Call} :
    (symbol, c) ∈ g.calls ↔
      ∃ as, g.alternatives? symbol = some as ∧ ∃ a ∈ as, c ∈ a.template.calls := by
  unfold calls
  rw [List.mem_flatMap]
  constructor
  · rintro ⟨row, hrow, hc⟩
    obtain ⟨d, hd, he⟩ := List.mem_map.mp hc
    cases he
    exact ⟨row.2, mem_rows.mp hrow, List.mem_flatMap.mp hd⟩
  · rintro ⟨as, has, ha⟩
    exact ⟨(symbol, as), mem_rows.mpr has, List.mem_map.mpr ⟨c, List.mem_flatMap.mpr ha, rfl⟩⟩

/-! ### Tables with one text for a symbol -/

theorem ofTable_of_rows {t : SymbolTable} {rows : List (String × List Alternative)}
    (h : t.toList.mapM readRow = .ok rows) : ofTable t = checkClosed ⟨.ofList rows⟩ := by
  unfold ofTable
  rw [h]

theorem checkClosed_of_firstUndefined? (horigin : g.symbols.contains originSymbol = true)
    (h : g.firstUndefined? = none) : g.checkClosed = .ok g := by
  unfold checkClosed
  rw [if_pos horigin, h]

theorem readRow_single {raw : String} {t : Template} (hname : isSymbolName symbol.toList = true)
    (h : Template.parse raw = .ok t) : readRow (symbol, [raw]) = .ok (symbol, [⟨raw, t⟩]) := by
  simp [readRow, hname, Alternative.read, h]
  rfl

/-- The grammar with one alternative for its origin and nothing else. -/
def single (a : Alternative) : Grammar := ⟨.ofList [(originSymbol, [a])]⟩

/-- A single text for the origin is a grammar when it reads and what it reads as is closed. -/
theorem ofTable_single {raw : String} {t : Template} (h : Template.parse raw = .ok t)
    (hclosed : (single ⟨raw, t⟩).firstUndefined? = none) :
    ofTable (.ofList [(originSymbol, [raw])]) = .ok (single ⟨raw, t⟩) := by
  have htable : (Std.ExtTreeMap.ofList [(originSymbol, [raw])] : SymbolTable).toList =
      [(originSymbol, [raw])] := rfl
  have hrows : [(originSymbol, [raw])].mapM readRow = .ok [(originSymbol, [⟨raw, t⟩])] := by
    rw [List.mapM_cons, List.mapM_nil, readRow_single (by decide) h]
    rfl
  rw [ofTable_of_rows (htable ▸ hrows)]
  exact checkClosed_of_firstUndefined? rfl hclosed

end NoteMuse.Grammar
