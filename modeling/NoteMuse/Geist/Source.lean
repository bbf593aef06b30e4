import NoteMuse.Geist.Outcome
import NoteMuse.Isolation
import NoteMuse.Session.Seed

/-!
What a geist does on its turn: expand a grammar some number of times, or run a program of the host. A
turn draws from the generator of the geist alone, so its record depends on nothing but the source, the
seed, the host, and the number of turns that the geist took before.
-/

namespace NoteMuse

open Isolation

/-- Why a caller does not return either: it waits for a function that does not. -/
def Host.FunctionError.halt? : Host.FunctionError → Option Halt
  | .endless _ => some .hung
  | .undefined _ | .failed _ _ | .duplicate _ | .invalidName _ => none

/-- Why an expansion does not return. -/
def ExpansionError.halt? : ExpansionError → Option Halt
  | .function e => e.halt?
  | .broke f => some (.broke f)
  | .tooDeep _ _ | .unknownSymbol _ | .missingPart _ _ _ => none

namespace Geist

/-- Why a program hands in nothing. -/
inductive Stop where
  | function (cause : Host.FunctionError)
  | message (text : String)
  | halted (cause : Halt)
  deriving DecidableEq, Repr

/-- A program that hands in drafts. It sees the host and the number of its earlier turns. -/
abbrev Program := Nat → Host → ExceptT Stop Random.Draw (List Draft)

/-- What runs on the turn of a geist. -/
inductive Source where
  /-- A grammar with the number of expansions; there is none when it is not valid. -/
  | grammar (g : Option Grammar) (count : Nat)
  | code (p : Program)

/-- What a turn gives when it returns. -/
abbrev Attempt := Except (ErrorKind × String) (List Suggestion)

namespace Source

def runnable : Source → Bool
  | grammar g _ => g.isSome
  | code _ => true

/-- The source as a log would show it. -/
def display : Source → String
  | grammar g count =>
    "Grammar \x7b valid: " ++ (if g.isSome then "true" else "false") ++ ", count: " ++
      toString count ++ " \x7d"
  | code _ => "Code"

end Source

/-! ### Turns -/

/-- What an expansion for a geist comes to. -/
def attemptTexts (id : String) : Except ExpansionError (List String) → Except Halt Attempt
  | .ok texts => .ok (.ok (Suggestion.ofTexts id texts))
  | .error e => e.halt?.elim (.ok (.error (e.kind, e.message))) .error

/-- What a program of a geist comes to. -/
def attemptDrafts (id : String) : Except Stop (List Draft) → Except Halt Attempt
  | .ok drafts => .ok (.ok (Suggestion.ofDrafts id drafts))
  | .error (.function e) => e.halt?.elim (.ok (.error (e.kind, e.message))) .error
  | .error (.message m) => .ok (.error (.runtime, m))
  | .error (.halted h) => .error h

/-- The outcome of isolated work. -/
def Outcome.ofEnding : Ending Attempt → Outcome
  | .returned (.ok s) => .success s
  | .returned (.error e) => .failure e.1 e.2
  | .broke m => .failure .runtime ("panicked: " ++ m)
  | .timedOut => .timeout

/-- The outcome of a turn: `earlier` turns of the geist came before it. A grammar that is not valid
fails without being run. -/
def Source.outcome (x : Expander) (seed : SessionSeed) (id : String) (earlier : Nat) :
    Source → Except Fault Outcome
  | grammar none _ => .ok (.failure .validation "grammar failed validation")
  | grammar (some g) count =>
    (run id (attemptTexts id (x.expandMany g count (seed.generatorFor id)).1)).map .ofEnding
  | code p =>
    (run id (attemptDrafts id (p earlier x.host (seed.generatorFor id)).1)).map .ofEnding

end Geist

end NoteMuse
