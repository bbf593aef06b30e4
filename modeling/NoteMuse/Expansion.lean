import NoteMuse.Grammar
import NoteMuse.Host

/-!
Expansion of a grammar to text. A symbol becomes one of its alternatives, drawn at random, and every
reference in it is expanded one level deeper; below the depth limit an expansion fails, which is what
ends grammars that refer to themselves. What an action binds stays bound to the end of the expansion.
-/

namespace NoteMuse

open Host NoteMuse.Random

/-- Why an expansion gives no text. -/
inductive ExpansionError where
  | tooDeep (symbol : String) (limit : Nat)
  | unknownSymbol (symbol : String)
  | missingPart (symbol : String) (index parts : Nat)
  | function (cause : FunctionError)
  | broke (fault : Fault)
  deriving DecidableEq, Repr

def ExpansionError.message : ExpansionError → String
  | tooDeep s d => "recursion limit exceeded expanding '" ++ s ++ "' (max depth " ++ toString d ++ ")"
  | unknownSymbol s => "unknown symbol '" ++ s ++ "'"
  | missingPart s i n =>
    "'" ++ s ++ "' has " ++ toString n ++ " cluster part(s), no part " ++ toString i
  | function e => e.message
  | broke f => f.message

/-- The names bound so far, the latest first. -/
abbrev Bindings := List (String × String)

/-- A part of an expansion: it may fail, and moves on the bindings and the generator. After a
failure the generator stays where it was left. -/
abbrev Expanding := StateT Bindings (ExceptT ExpansionError Draw)

/-- What an expansion works with. -/
structure Expander where
  host : Host
  maxDepth : Nat

namespace Expander

/-- A draw as a part of an expansion. -/
def drawing {α : Type} (d : Draw α) : Expanding α := fun b g =>
  let (a, g) := d g
  (.ok (a, b), g)

/-- A call as a part of an expansion. -/
def calling (x : Expander) (c : Call) : Expanding String := fun b g =>
  let (r, g) := x.host.call c.qualifiedName c.args g
  (match r with
    | .ok s => .ok (s, b)
    | .error e => .error (.function e), g)

/-! ### Steps -/

def applyStep (x : Expander) (symbol value : String) : Step → Except ExpansionError String
  | .part i =>
    let parts := x.host.parts value
    match parts[i]? with
    | some p => .ok p
    | none => .error (.missingPart symbol i parts.length)
  | .apply m =>
    match m.apply value with
    | .ok s => .ok s
    | .error f => .error (.broke f)

/-- The steps after the name of a symbol, from left to right. -/
def applySteps (x : Expander) (symbol value : String) (steps : List Step) :
    Except ExpansionError String :=
  steps.foldlM (x.applyStep symbol) value

/-! ### Symbols and templates -/

mutual

/-- The text of a segment; `expand` gives the text of a symbol that no action has bound. -/
def renderSegment (x : Expander) (expand : String → Expanding String) :
    Segment → Expanding String
  | .literal s => pure s
  | .reference symbol steps => do
    let bound := (← get).lookup symbol
    let value ← match bound with
      | some v => pure v
      | none => expand symbol
    match x.applySteps symbol value steps with
    | .ok s => pure s
    | .error e => throw e
  | .call c => x.calling c
  | .action name body => do
    let value ← renderTemplate x expand body
    modify fun b => (name, value) :: b
    pure ""

def renderTemplate (x : Expander) (expand : String → Expanding String) :
    Template → Expanding String
  | [] => pure ""
  | s :: rest => do
    let a ← renderSegment x expand s
    let b ← renderTemplate x expand rest
    pure (a ++ b)

end

/-- The text of a symbol, with `levels` levels left, its own among them. -/
def expandAt (x : Expander) (g : Grammar) : Nat → String → Expanding String
  | 0, symbol => throw (.tooDeep symbol x.maxDepth)
  | levels + 1, symbol =>
    match g.alternatives? symbol with
    | none => throw (.unknownSymbol symbol)
    | some [] => throw (.unknownSymbol symbol)
    | some (a :: as) => do
      let i ← drawing (below64 (as.length + 1))
      renderTemplate x (x.expandAt g levels) ((a :: as).getD i a).template

/-! ### Whole expansions -/

/-- The text of a symbol, expanded like the origin, with nothing bound before. -/
def expandSymbol (x : Expander) (g : Grammar) (symbol : String) :
    ExceptT ExpansionError Draw String :=
  (x.expandAt g (x.maxDepth + 1) symbol).run' []

def expandOrigin (x : Expander) (g : Grammar) : ExceptT ExpansionError Draw String :=
  x.expandSymbol g originSymbol

/-- Several texts of the origin from one stream; the first failure ends the run. -/
def expandMany (x : Expander) (g : Grammar) : Nat → ExceptT ExpansionError Draw (List String)
  | 0 => pure []
  | n + 1 => do
    let s ← x.expandOrigin g
    let rest ← expandMany x g n
    pure (s :: rest)

end Expander

end NoteMuse
