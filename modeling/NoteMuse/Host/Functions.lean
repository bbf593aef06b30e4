import NoteMuse.Host.Handler
import NoteMuse.Text.Split
import Std.Data.ExtTreeMap

/-!
The functions a host offers, by name, and their names in the order in which they were registered. A name
has two parts with a dot between them, and no two functions share one.
-/

namespace NoteMuse.Host

/-- Why a function cannot be registered or called. -/
inductive FunctionError where
  | undefined (name : String)
  | failed (name cause : String)
  /-- The call never returns: this is no answer that a caller gets, but what an isolated caller is given up for. -/
  | endless (name : String)
  | duplicate (name : String)
  | invalidName (name : String)
  deriving DecidableEq, Repr

def FunctionError.message : FunctionError → String
  | undefined n => "undefined function: " ++ n
  | failed n cause => "function '" ++ n ++ "' failed: " ++ cause
  | endless n => "function '" ++ n ++ "' does not return"
  | duplicate n => "function '" ++ n ++ "' is registered more than once"
  | invalidName n => "invalid function name '" ++ n ++ "': expected namespace.function"

/-- What a call fails with when the function of that name gives nothing back. Calls are isolated: of a fault
only the message is left. -/
def FunctionError.ofFailure (name : String) : Failure → FunctionError
  | .refused m => .failed name m
  | .broke f => .failed name ("panicked: " ++ f.message)
  | .hung => .endless name

/-- The name has a part before and after its first dot. -/
def isFunctionName (name : String) : Bool :=
  match Text.cutAt ['.'] name.toList with
  | some (before, after) => !before.isEmpty && !after.isEmpty
  | none => false

/-- Functions by name, and the names in the order of registration. -/
structure Functions where
  names : List String
  handlers : Std.ExtTreeMap String Handler
  mem_names : ∀ name, name ∈ names ↔ name ∈ handlers

namespace Functions

def empty : Functions := ⟨[], ∅, by simp⟩

/-- The function of that name. -/
def find? (fs : Functions) (name : String) : Option Handler := fs.handlers[name]?

def contains (fs : Functions) (name : String) : Bool := fs.handlers.contains name

/-- Adds a function behind the others, whatever its name. -/
def insert (fs : Functions) (name : String) (h : Handler) : Functions where
  names := fs.names ++ [name]
  handlers := fs.handlers.insert name h
  mem_names := by
    intro other
    simp only [List.mem_append, List.mem_singleton, Std.ExtTreeMap.mem_insert, fs.mem_names,
      Std.LawfulEqCmp.compare_eq_iff_eq]
    grind

/-! ### Registration -/

/-- What is done to functions in their place, step by step. Any step may refuse, and what was done before
it stays done. -/
abbrev Edit := EStateM FunctionError Functions

def register (name : String) (h : Handler) : Edit Unit := do
  if !isFunctionName name then
    throw (.invalidName name)
  if (← get).contains name then
    throw (.duplicate name)
  modify fun fs => fs.insert name h

/-- Adds functions one after another, up to the first that cannot be added. -/
def registerAll : List (String × Handler) → Edit Unit
  | [] => return
  | e :: rest => do
    register e.1 e.2
    registerAll rest

/-- The functions of a list; the first that cannot be added is the error. -/
def ofEntries (entries : List (String × Handler)) : Except FunctionError Functions :=
  match (registerAll entries).run empty with
  | .ok _ fs => .ok fs
  | .error e _ => .error e

/-! ### Calls -/

/-- Calls a function by name. -/
def resolve (fs : Functions) (vault : Vault) (name : String) (args : List Arg) :
    ExceptT FunctionError Random.Draw Value :=
  match fs.find? name with
  | none => throw (.undefined name)
  | some h => (h vault args).adapt (.ofFailure name)

/-- The registry as a log would show it. -/
def display (fs : Functions) : String :=
  "FunctionRegistry \x7b functions: [" ++ ", ".intercalate (fs.names.map Text.quoted) ++ "] \x7d"

end Functions

end NoteMuse.Host
