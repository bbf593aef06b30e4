import NoteMuse.Decimal.Double
import NoteMuse.Text.Quoted

/-!
Calls of host functions: a name of two parts and a list of literal arguments.
-/

namespace NoteMuse

open Decimal

/-- A literal argument. -/
inductive Arg where
  | text (s : String)
  | int (n : Int64)
  | float (x : Double)
  deriving DecidableEq, Repr

namespace Arg

def asText? : Arg → Option String
  | text s => some s
  | _ => none

/-- The number of an argument that is a whole number and not negative. -/
def asCount? : Arg → Option Nat
  | int n => if 0 ≤ n.toInt then some n.toInt.toNat else none
  | _ => none

/-- Texts are quoted, numbers are decimal. -/
def display : Arg → String
  | text s => Text.quoted s
  | int n => intText n.toInt
  | float x => x.text

end Arg

/-- A call `space.function` with its arguments. -/
structure Call where
  space : String
  function : String
  args : List Arg
  deriving DecidableEq, Repr

namespace Call

/-- The name under which the function is registered. -/
def qualifiedName (c : Call) : String := c.space ++ "." ++ c.function

def display (c : Call) : String :=
  "$" ++ c.qualifiedName ++ "(" ++ ", ".intercalate (c.args.map Arg.display) ++ ")"

end Call

end NoteMuse
