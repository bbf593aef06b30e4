import NoteMuse.Note.Folder
import NoteMuse.Preview
import NoteMuse.Terminal

/-!
The preview command: it loads a grammar geist and perhaps notes, greets, and then answers line after
line until it is told to stop or the input ends.
-/

namespace NoteMuse.Preview

def usage : String := "Usage: preview <geist_file> [--notes <dir>] [--seed <n>]"

/-! ### Arguments -/

structure Options where
  notes : Option String
  seed : SessionSeed
  deriving DecidableEq, Repr

/-- Reads options. A seed that is none leaves the one before it; the error is the first argument that
is no option. -/
def Options.read (o : Options) : List String → Except String Options
  | [] => .ok o
  | "--notes" :: directory :: rest => Options.read { o with notes := some directory } rest
  | "--seed" :: seed :: rest => Options.read { o with seed := (readSeed? seed).getD o.seed } rest
  | other :: _ => .error other

/-! ### Start -/

/-- A failure before the first prompt. -/
def failure (message : String) : Printout := ⟨[], ["ERROR: " ++ message], 1⟩

def loadVault (view : FileView) : Option String → Except Printout Vault
  | none => .ok (.ofNotes [])
  | some directory =>
    (Vault.ofDirectory directory (view.readDirectory directory)).mapError fun e =>
      failure ("cannot read notes from " ++ directory ++ ": " ++ e.message)

/-- The shell for a file, and the lines that greet. -/
def start (view : FileView) (path : String) (o : Options) :
    Except Printout (Shell × List Line) := do
  let file ← (GeistFile.load path (view.readText path)).mapError fun e => failure e.message
  let g ← file.grammar.mapError fun e => failure ("grammar failed validation: " ++ e.message)
  let id := file.id.getD (FileName.stem (Path.fileName path))
  let count := file.count.getD 1
  let vault ← loadVault view o.notes
  let shell : Shell := ⟨id, g, count, vault, o.seed, o.seed.generatorFor id⟩
  return (shell,
    [.text ("Geist: " ++ id ++ " (" ++ toString g.names.length ++ " symbols, count " ++
      toString count ++ ")")] ++
    (file.description.map fun d => Line.text ("  " ++ d)).toList ++
    [.text ("Notes: " ++ toString vault.noteCount), .text ("Seed: " ++ o.seed.text),
      .text "Type 'help' for commands.", .text ""])

/-- The shell that the arguments ask for. Without arguments, or when help is asked for, there is none,
and the usage is printed. -/
def launch (view : FileView) (today : SessionSeed) :
    List String → Except Printout (Shell × List Line)
  | [] => .error ⟨[usage], [], 0⟩
  | path :: rest =>
    if path = "--help" || path = "-h" then .error ⟨[usage], [], 0⟩
    else
      match Options.read ⟨none, today⟩ rest with
      | .error other => .error ⟨[usage], ["Unknown argument: " ++ other], 1⟩
      | .ok o => start view path o

/-! ### Whole runs -/

def prompt : String := "preview> "

/-- The answers to lines, each after a prompt, and the fault by which the shell breaks off. The last prompt
waits for a line that never comes, or stands before the line that has no answer. -/
def answers (s : Shell) : List String → String × Option Fault
  | [] => (prompt, none)
  | line :: rest =>
    let command := Command.ofLine line
    match s.run command with
    | .error f => (prompt, some f)
    | .ok (s, lines) =>
      let text := prompt ++ String.join (lines.map fun l => l.render ++ "\n")
      if command = .quit then (text, none)
      else
        let (more, fault) := answers s rest
        (text ++ more, fault)

/-- The lines of a text, the last of which may be without an end. -/
def linesOf (text : String) : List String :=
  let parts := Text.pieces "\n" text
  if parts.getLast? = some "" then parts.dropLast else parts

/-- The code that a command ends with when it breaks off. -/
def faultCode : UInt8 := 101

/-- The command with its arguments and the lines of its input. What was printed before a fault stays printed. -/
def command (view : FileView) (today : SessionSeed) (args input : List String) : Printout :=
  match launch view today args with
  | .error p => p
  | .ok (s, greeting) =>
    let (text, fault) := answers s input
    let out := linesOf (String.join (greeting.map fun l => l.render ++ "\n") ++ text)
    match fault with
    | none => ⟨out, [], 0⟩
    | some f => ⟨out, [f.message], faultCode⟩

end NoteMuse.Preview
