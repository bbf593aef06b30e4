import NoteMuse.Template.Reader
import Std.Data.ExtTreeMap

/-!
Grammars: symbols with the alternatives that a draw chooses from. A grammar is closed when it has the
symbol `origin` and every reference names a symbol or the binding of some action.
-/

namespace NoteMuse

/-- The symbol that every expansion starts from. -/
def originSymbol : String := "origin"

/-- Lists of texts by symbol, as a grammar is written down. -/
abbrev SymbolTable := Std.ExtTreeMap String (List String)

/-- What one draw may choose: a text and the template that it denotes. -/
structure Alternative where
  raw : String
  template : Template
  deriving Repr

/-- The alternatives of every symbol. -/
structure Grammar where
  symbols : Std.ExtTreeMap String (List Alternative)

/-- Why a symbol table is no grammar. -/
inductive GrammarError where
  | template (symbol : String) (cause : TemplateError)
  | missingOrigin
  | emptySymbol (symbol : String)
  | undefinedSymbol (symbol reference : String)
  deriving DecidableEq, Repr

namespace GrammarError

def message : GrammarError → String
  | template s e => "symbol '" ++ s ++ "': " ++ e.message
  | missingOrigin => "grammar has no 'origin' symbol"
  | emptySymbol s => "symbol '" ++ s ++ "' has no alternatives"
  | undefinedSymbol s r => "symbol '" ++ s ++ "' references undefined symbol '" ++ r ++ "'"

def symbol : GrammarError → String
  | template s _ => s
  | missingOrigin => originSymbol
  | emptySymbol s => s
  | undefinedSymbol s _ => s

end GrammarError

def Alternative.read (symbol raw : String) : Except GrammarError Alternative :=
  match Template.parse raw with
  | .ok t => .ok ⟨raw, t⟩
  | .error e => .error (.template symbol e)

namespace Grammar

/-! ### Views -/

def alternatives? (g : Grammar) (symbol : String) : Option (List Alternative) :=
  g.symbols[symbol]?

/-- The symbols, ascending. -/
def names (g : Grammar) : List String := g.symbols.keys

/-- Symbols and alternatives, ascending by symbol. -/
def rows (g : Grammar) : List (String × List Alternative) := g.symbols.toList

/-- Every call that the grammar makes, with the symbol it belongs to. -/
def calls (g : Grammar) : List (String × Call) :=
  g.rows.flatMap fun row => (row.2.flatMap fun a => a.template.calls).map fun c => (row.1, c)

/-! ### Closed grammars -/

def bindings (g : Grammar) : List String :=
  g.rows.flatMap fun row => row.2.flatMap fun a => a.template.bindings

/-- The first reference, by symbol and then in the order of the text, that names neither a symbol
nor a binding, with the symbol in whose alternatives it occurs. -/
def firstUndefined? (g : Grammar) : Option (String × String) :=
  let bound := g.bindings
  g.rows.findSome? fun row =>
    row.2.findSome? fun a =>
      (a.template.references.find? fun r => !(g.symbols.contains r || bound.contains r)).map
        fun r => (row.1, r)

def checkClosed (g : Grammar) : Except GrammarError Grammar :=
  if g.symbols.contains originSymbol then
    match g.firstUndefined? with
    | none => .ok g
    | some (s, r) => .error (.undefinedSymbol s r)
  else .error .missingOrigin

/-! ### From tables -/

/-- The alternatives of one symbol: the name is checked first, then that there are any. -/
def readRow (row : String × List String) : Except GrammarError (String × List Alternative) :=
  if !isSymbolName row.1.toList then .error (.template row.1 (.invalidName row.1))
  else if row.2.isEmpty then .error (.emptySymbol row.1)
  else (row.2.mapM (Alternative.read row.1)).map fun alts => (row.1, alts)

/-- The closed grammar of a table. An error names the first symbol at fault. -/
def ofTable (t : SymbolTable) : Except GrammarError Grammar :=
  match t.toList.mapM readRow with
  | .error e => .error e
  | .ok rows => (Grammar.mk (Std.ExtTreeMap.ofList rows)).checkClosed

end Grammar

end NoteMuse
