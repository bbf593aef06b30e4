import NoteMuse.Grammar.Reach
import NoteMuse.Host.Functions

/-!
Lint: what is wrong with a grammar that is closed, and what makes its texts less varied than they
could be.
-/

namespace NoteMuse.Lint

/-- Something about a grammar. -/
inductive Finding where
  /-- A function is called that is not registered. -/
  | unknownFunction (symbol function : String)
  /-- No expansion comes to the symbol. -/
  | unused (symbol : String)
  /-- The symbol always gives the same text. -/
  | fixed (symbol : String)
  /-- Several suggestions are asked for, and all are the same. -/
  | identical (count : Nat)
  deriving DecidableEq, Repr

def Finding.message : Finding → String
  | unknownFunction s f => "symbol '" ++ s ++ "' calls unknown function '" ++ f ++ "'"
  | unused s => "symbol '" ++ s ++ "' is never used"
  | fixed s => "symbol '" ++ s ++ "' has a single fixed alternative"
  | identical n => "count is " ++ toString n ++ " but every expansion will be identical"

/-! ### Errors -/

/-- The calls of functions that are not registered, in the order of the grammar. -/
def errors (g : Grammar) (fs : Host.Functions) : List Finding :=
  (g.calls.filter fun c => !fs.contains c.2.qualifiedName).map fun c =>
    .unknownFunction c.1 c.2.qualifiedName

/-! ### Warnings -/

/-- The symbols that no expansion comes to. -/
def unusedSymbols (g : Grammar) : List String :=
  let reached := g.reachable
  g.names.filter fun s => s ∉ reached

/-- An alternative calls a function outside its actions. -/
def calls (as : List Alternative) : Bool := as.any fun a => a.template.any fun s => s.called?.isSome

/-- The alternatives of a symbol leave something to be drawn. -/
def varies (as : List Alternative) : Bool := 1 < as.length || calls as

/-- The symbols other than the origin that leave nothing to be drawn. -/
def fixedSymbols (g : Grammar) : List String :=
  (g.rows.filter fun row => row.1 ≠ originSymbol && !varies row.2).map Prod.fst

/-- No symbol leaves anything to be drawn. -/
def isFixed (g : Grammar) : Bool := g.rows.all fun row => !varies row.2

/-- What makes the texts less varied, when `count` of them are asked for. -/
def warnings (g : Grammar) (count : Nat) : List Finding :=
  (unusedSymbols g).map .unused ++ (fixedSymbols g).map .fixed ++
    (if 1 < count && isFixed g then [.identical count] else [])

end NoteMuse.Lint
