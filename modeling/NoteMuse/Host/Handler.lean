import NoteMuse.Call
import NoteMuse.Fault
import NoteMuse.Random.Draw
import NoteMuse.Vault

/-!
Host functions: what a grammar or a geist may call, what such a function sees, and what it gives back.
-/

namespace NoteMuse.Host

/-- What a function gives back. -/
inductive Value where
  | scalar (text : String)
  /-- Related values, written one after another with a delimiter between them. -/
  | cluster (parts : List String)
  deriving DecidableEq, Repr

def Value.render (delimiter : String) : Value → String
  | scalar s => s
  | cluster parts => delimiter.intercalate parts

/-- Why a function gave nothing back. -/
inductive Failure where
  | refused (message : String)
  | broke (fault : Fault)
  /-- It does not come to an end, or not before the time of the one who waits is over. -/
  | hung
  deriving DecidableEq, Repr

/-- A function sees the vault and its arguments, and draws from the generator of the geist that calls
it. -/
abbrev Handler := Vault → List Arg → ExceptT Failure Random.Draw Value

def refuse {α : Type} (message : String) : ExceptT Failure Random.Draw α :=
  throw (.refused message)

end NoteMuse.Host
