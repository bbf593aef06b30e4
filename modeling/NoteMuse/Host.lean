import NoteMuse.Host.Builtin

/-!
A host: the functions, the vault and the delimiter that an expansion works with.
-/

namespace NoteMuse

/-- Functions on a vault, and the delimiter of the clusters they give back. -/
structure Host where
  functions : Host.Functions
  vault : Vault
  delimiter : String

namespace Host

/-- Calls a function and renders what it gives back. -/
def call (h : Host) (name : String) (args : List Arg) :
    ExceptT FunctionError Random.Draw String := do
  let value ← h.functions.resolve h.vault name args
  return value.render h.delimiter

/-- The parts of a rendered cluster, without white space around them. -/
def parts (h : Host) (text : String) : List String :=
  (Text.pieces h.delimiter text).map Text.trimmed

/-- Calls a function for the parts of what it gives back. -/
def callParts (h : Host) (name : String) (args : List Arg) :
    ExceptT FunctionError Random.Draw (List String) := do
  let text ← h.call name args
  return h.parts text

end Host

end NoteMuse
