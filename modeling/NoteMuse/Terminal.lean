/-!
What a command leaves behind at a terminal.
-/

namespace NoteMuse

/-- The lines of both outputs and the exit code. -/
structure Printout where
  out : List String
  err : List String
  code : UInt8
  deriving DecidableEq, Repr

end NoteMuse
