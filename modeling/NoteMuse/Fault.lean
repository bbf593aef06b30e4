import NoteMuse.Text.Quoted

/-!
Faults: what is left of a computation that broke off instead of returning. A fault is not an error
of the caller's input, and where a geist or a function is isolated it turns into one.
-/

namespace NoteMuse

def workerName (name : String) : String := "geist-" ++ name

/-- Why a computation broke off. -/
inductive Fault where
  /-- It was stopped on purpose, with a message or with something that is no text. -/
  | raised (message : Option String)
  /-- A text was to be cut at a byte inside the character `c`, which begins at byte `start`. -/
  | cutInside (start : Nat) (c : Char)
  /-- A worker cannot have a name that holds the character with code 0, which ends names. -/
  | unnameable (name : String)
  deriving DecidableEq, Repr

namespace Fault

/-- The message that a fault leaves, without the place and the calls that are listed beside it. -/
def message : Fault → String
  | raised (some m) => m
  | raised none => "panic with non-string payload"
  | cutInside start c =>
    "start byte index " ++ toString (start + 1) ++ " is not a char boundary; it is inside " ++
      Text.quotedChar c ++ " (bytes " ++ toString start ++ ".." ++
      toString (start + c.utf8Size) ++ " of string)"
  | unnameable name =>
    let bytes := (workerName name).toUTF8.toList
    "thread name may not contain interior null bytes: NulError(" ++ toString (bytes.idxOf 0) ++ ", [" ++
      ", ".intercalate (bytes.map toString) ++ "])"

end Fault

end NoteMuse
