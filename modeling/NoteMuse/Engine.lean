import NoteMuse.Config
import NoteMuse.Host.Builtin
import NoteMuse.Registry.Folder
import NoteMuse.Registry.State
import NoteMuse.Session

/-!
The engine: a registry that is filled once, a scheduler, the seed of its sessions, and a file that
keeps the state of the geists from one engine to the next.
-/

namespace NoteMuse

/-- The file that keeps the state of the geists. -/
inductive StateFile where
  | unused
  /-- There is none yet. -/
  | absent
  | written (text : String)
  deriving DecidableEq, Repr

namespace StateFile

def content : StateFile → Except FileError String
  | unused => .error .notFound
  | absent => .error .notFound
  | written text => .ok text

def write (text : String) : StateFile → StateFile
  | unused => unused
  | absent => written text
  | written _ => written text

end StateFile

/-- What an engine is built from. -/
structure Setup where
  /-- The seed of the sessions that are given none. -/
  seed : SessionSeed
  /-- The settings, or why they cannot be read. -/
  config : Except ConfigError Config
  /-- Another time limit, in millionths of a second. -/
  timeout : Option Nat
  /-- Directories of grammar files, each with its path and what is found there. -/
  directories : List (String × Except FileError FileNode)
  /-- Grammars by id, each with its number of suggestions if it has one of its own. -/
  grammars : List (String × Grammar × Option Nat)
  programs : List (String × Geist.Program)
  vault : Vault
  functions : Host.Functions
  stateFile : StateFile

namespace Setup

/-- Nothing but a seed. -/
def ofSeed (seed : SessionSeed) : Setup where
  seed := seed
  config := .ok .standard
  timeout := none
  directories := []
  grammars := []
  programs := []
  vault := .ofNotes []
  functions := .builtin
  stateFile := .unused

def settings (s : Setup) : Except ConfigError Config := do
  let c ← s.config
  (s.timeout.elim c fun t => c.withTimeout t).check

/-- Adds the geists of a directory. One that is not there has none. -/
def addDirectory (count : Nat) (r : Registry) (d : String × Except FileError FileNode) :
    Except RegistryError Registry :=
  match d.2 with
  | .error _ => .ok r
  | .ok node => (r.addDirectory count d.1 node.readDirectory).map Prod.fst

/-- The registry with all geists of the setup and what the state file keeps of them. -/
def registry (s : Setup) (count : Nat) : Except RegistryError Registry := do
  let r ← s.directories.foldlM (addDirectory count) .empty
  let r ← s.grammars.foldlM
    (fun r g => r.addGrammar g.1 ("inline:" ++ g.1) g.2.1 (g.2.2.getD count)) r
  let r ← s.programs.foldlM (fun r p => r.addCode p.1 p.2) r
  return (← r.load s.stateFile.content).1

end Setup

/-- Why an engine cannot be built, or refuses. -/
inductive EngineError where
  | registry (cause : RegistryError)
  | config (cause : ConfigError)
  deriving DecidableEq, Repr

def EngineError.message : EngineError → String
  | registry e => "registry error: " ++ e.message
  | config e => "config error: " ++ e.message

/-- An engine. -/
structure Engine where
  registry : Registry
  scheduler : Scheduler
  config : Config
  seed : SessionSeed
  stateFile : StateFile

namespace Engine

def schedulerOf (c : Config) (functions : Host.Functions) (vault : Vault) : Scheduler where
  expander := ⟨⟨functions, vault, c.clusterDelimiter⟩, c.maxDepth⟩
  failureThreshold := c.failureThreshold

/-- Builds an engine. -/
def build (s : Setup) : Except EngineError Engine := do
  let c ← s.settings.mapError .config
  let registry ← (s.registry c.defaultCount).mapError .registry
  return {
    registry
    scheduler := schedulerOf c s.functions s.vault
    config := c
    seed := s.seed
    stateFile := s.stateFile }

/-- The engine with another registry, whose state is written down. Writing succeeds here: a disk that fails
is outside of what an engine decides, and all that it could add is an error in place of the report. -/
def keep (e : Engine) (r : Registry) : Engine :=
  { e with registry := r, stateFile := e.stateFile.write r.savedText }

def runWith (e : Engine) (seed : SessionSeed) : Except Fault (Report × Engine) := do
  let (report, r) := e.scheduler.session e.registry seed
  return (← report, e.keep r)

/-- Runs a session with the seed of the engine. -/
def run (e : Engine) : Except Fault (Report × Engine) := e.runWith e.seed

def reset (e : Engine) (id : String) : Except EngineError Engine :=
  match e.registry.reset id with
  | .ok r => .ok (e.keep r)
  | .error cause => .error (.registry cause)

end Engine

end NoteMuse
