import NoteMuse.Expansion
import NoteMuse.Suggestion

/-!
How a turn of a geist ends: with suggestions, with an error of some kind, or not in time.
-/

namespace NoteMuse

/-- What kind of fault a turn failed by. -/
inductive ErrorKind where
  /-- The grammar is not closed. -/
  | validation
  | recursionLimit
  | undefinedFunction
  | functionCall
  | timeout
  | runtime
  deriving DecidableEq, Repr

def ErrorKind.label : ErrorKind → String
  | validation => "validation"
  | recursionLimit => "recursion_limit"
  | undefinedFunction => "undefined_function"
  | functionCall => "function_call"
  | timeout => "timeout"
  | runtime => "runtime"

def Host.FunctionError.kind : Host.FunctionError → ErrorKind
  | .undefined _ => .undefinedFunction
  | .failed _ _ => .functionCall
  | .endless _ => .timeout
  | .duplicate _ => .runtime
  | .invalidName _ => .runtime

def ExpansionError.kind : ExpansionError → ErrorKind
  | .tooDeep _ _ => .recursionLimit
  | .unknownSymbol _ => .validation
  | .missingPart _ _ _ => .runtime
  | .function e => e.kind
  | .broke _ => .runtime

namespace Geist

/-- How far a turn has come. -/
inductive Stage where
  | pending
  | running
  | completed
  | failed
  | timedOut
  deriving DecidableEq, Repr

namespace Stage

/-- The turn is over. -/
def isTerminal : Stage → Bool
  | pending => false
  | running => false
  | completed => true
  | failed => true
  | timedOut => true

def label : Stage → String
  | pending => "Pending"
  | running => "Running"
  | completed => "Completed"
  | failed => "Failed"
  | timedOut => "TimedOut"

end Stage

/-- How a turn ended. -/
inductive Outcome where
  | success (suggestions : List Suggestion)
  | failure (kind : ErrorKind) (message : String)
  | timeout
  deriving DecidableEq, Repr

namespace Outcome

def stage : Outcome → Stage
  | success _ => .completed
  | failure _ _ => .failed
  | timeout => .timedOut

/-- The suggestions of the turn; there are none when it failed. -/
def suggestions : Outcome → List Suggestion
  | success s => s
  | failure _ _ => []
  | timeout => []

def errorKind? : Outcome → Option ErrorKind
  | success _ => none
  | failure k _ => some k
  | timeout => some .timeout

/-- The kind of the failure and what is known about it. -/
def failureMessage? : Outcome → Option String
  | success _ => none
  | failure k m => some (k.label ++ ": " ++ m)
  | timeout => some (ErrorKind.timeout.label ++ ": geist did not return in time")

end Outcome

/-- One turn of a geist in a session. -/
structure Record where
  geist : String
  outcome : Outcome
  deriving DecidableEq, Repr

end Geist

end NoteMuse
