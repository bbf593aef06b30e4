import NoteMuse.Fault

/-!
Work that is isolated from the one who waits for it: it may return, break off, or not come to an end,
and none of this reaches the one who waits but as a value.
-/

namespace NoteMuse.Isolation

/-- Why work does not return. -/
inductive Halt where
  | broke (fault : Fault)
  /-- It does not come to an end while it is waited for. How long that is, is not measured: whether work takes
  longer is part of the work. -/
  | hung
  deriving DecidableEq, Repr

/-- How isolated work ended. -/
inductive Ending (α : Type) where
  | returned (a : α)
  /-- It broke off and left a message. -/
  | broke (message : String)
  /-- It was given up when its time was over. -/
  | timedOut
  deriving DecidableEq, Repr

def Ending.of {α : Type} : Except Halt α → Ending α
  | .ok a => .returned a
  | .error (.broke f) => .broke f.message
  | .error .hung => .timedOut

/-- Runs work under a name. It is the one who waits that breaks off when no worker can have the
name. That a system has no worker to give, or loses one without a word, depends on nothing that is known
here, and is left out. -/
def run {α : Type} (name : String) (work : Except Halt α) : Except Fault (Ending α) :=
  if '\x00' ∈ name.toList then .error (.unnameable name) else .ok (.of work)

end NoteMuse.Isolation
