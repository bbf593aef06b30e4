import NoteMuse.Engine

/-!
The preview shell: it expands one grammar geist on demand. `expand` and `symbol` draw from one stream,
which `seed` starts again; `session` runs the geist as an engine would and leaves the stream alone.
-/

namespace NoteMuse.Preview

open Text

/-! ### Commands -/

inductive Command where
  | blank
  | quit
  | help
  | expand (count : Nat)
  | symbol (name : Option String)
  | seed (seed : Option SessionSeed)
  | session
  | symbols
  | unknown (word : String)
  deriving DecidableEq, Repr

def readSeed? (s : String) : Option SessionSeed :=
  (Decimal.readCount? UInt64.size s).map fun n => ⟨n.toUInt64⟩

/-- What a line asks for. The first word tells, in upper or lower case. -/
def Command.ofLine (line : String) : Command :=
  match fields line with
  | [] => .blank
  | word :: rest =>
    match String.ofList (lower word.toList) with
    | "quit" | "exit" | "q" => .quit
    | "help" | "h" | "?" => .help
    | "expand" | "e" => .expand ((rest.head?.bind (Decimal.readCount? UInt64.size)).getD 1)
    | "symbol" => .symbol rest.head?
    | "seed" => .seed (rest.head?.bind readSeed?)
    | "session" => .session
    | "symbols" => .symbols
    | other => .unknown other

/-! ### Output -/

/-- A line that the shell prints. -/
inductive Line where
  | text (s : String)
  /-- The end of a turn; the time it took follows on the same line. -/
  | turn (geist : String) (stage : Geist.Stage)
  deriving DecidableEq, Repr

/-- The line without any time. -/
def Line.render : Line → String
  | text s => s
  | turn geist stage => geist ++ " → " ++ stage.label ++ " in"

def helpLines : List Line := [
  .text "Commands:",
  .text "  expand [n]     — expand origin n times",
  .text "  symbol <name>  — expand one symbol",
  .text "  seed <n>       — restart the random stream from seed n",
  .text "  session        — run the geist as the scheduler would",
  .text "  symbols        — list symbols",
  .text "  help           — this list",
  .text "  quit           — exit"]

def suggestionLines (s : Suggestion) : List Line :=
  .text ("- " ++ s.text) ::
    (if s.notes.isEmpty then [] else [.text ("    notes: " ++ ", ".intercalate s.notes)])

def recordLines (r : Geist.Record) : List Line :=
  .turn r.geist r.outcome.stage ::
    (r.outcome.failureMessage?.map fun m => Line.text ("    " ++ m)).toList

/-- The records of a session, then its suggestions. -/
def reportLines (r : Report) : List Line :=
  r.records.flatMap recordLines ++ r.suggestions.map fun s => .text ("- " ++ s.text)

/-! ### The shell -/

/-- A geist that is looked at, and the state of its stream. -/
structure Shell where
  id : String
  grammar : Grammar
  count : Nat
  vault : Vault
  seed : SessionSeed
  generator : Random.Generator

namespace Shell

def expander (s : Shell) : Expander :=
  ⟨⟨.builtin, s.vault, Config.standard.clusterDelimiter⟩, Config.standard.maxDepth⟩

/-- The shell with its stream at the beginning of a seed. -/
def startAt (s : Shell) (seed : SessionSeed) : Shell :=
  { s with seed, generator := seed.generatorFor s.id }

def expand (s : Shell) (count : Nat) : Except Fault (Shell × List Line) :=
  match s.expander.expandMany s.grammar count s.generator with
  | (.ok texts, g) =>
    .ok ({ s with generator := g }, (Suggestion.ofTexts s.id texts).flatMap suggestionLines)
  | (.error (.broke f), _) => .error f
  | (.error e, g) =>
    .ok ({ s with generator := g }, [.text ("ERROR [" ++ e.kind.label ++ "]: " ++ e.message)])

def symbol (s : Shell) (name : String) : Except Fault (Shell × List Line) :=
  if s.grammar.names.contains name then
    match s.expander.expandSymbol s.grammar name s.generator with
    | (.ok text, g) => .ok ({ s with generator := g }, [.text text])
    | (.error (.broke f), _) => .error f
    | (.error e, g) => .ok ({ s with generator := g }, [.text ("ERROR: " ++ e.message)])
  else .ok (s, [.text ("No symbol '" ++ name ++ "'")])

/-- The lines of a session with nothing but this geist. -/
def session (s : Shell) : Except Fault (List Line) := do
  let setup := { Setup.ofSeed s.seed with
    vault := s.vault, grammars := [(s.id, s.grammar, some s.count)] }
  match Engine.build setup with
  | .error e => return [.text ("ERROR: " ++ e.message)]
  | .ok engine => return reportLines (← engine.run).1

/-- Does what a command asks for. -/
def run (s : Shell) : Command → Except Fault (Shell × List Line)
  | .blank => .ok (s, [])
  | .quit => .ok (s, [.text "Goodbye."])
  | .help => .ok (s, helpLines)
  | .expand n => s.expand n
  | .symbol (some name) => s.symbol name
  | .symbol none => .ok (s, [.text "Usage: symbol <name>"])
  | .seed (some seed) => .ok (s.startAt seed, [.text ("Seed: " ++ seed.text)])
  | .seed none => .ok (s, [.text "Usage: seed <n>"])
  | .session => s.session.map fun lines => (s, lines)
  | .symbols => .ok (s, s.grammar.rows.map fun row =>
      .text ("  " ++ row.1 ++ " (" ++ toString row.2.length ++ " alternatives)"))
  | .unknown word => .ok (s, [.text ("Unknown command '" ++ word ++ "'. Type 'help'.")])

end Shell

end NoteMuse.Preview
