import NoteMuse.Lint.CommandLine
import NoteMuse.Preview.CommandLine
import Std.Time

/-!
The command line. `lint` looks at grammar files and `preview` opens the shell; this module reads the
files that the arguments name, and lets the lines of the shell come and go.
-/

namespace NoteMuse.CommandLine

/-! ### Files -/

partial def readEntry (e : IO.FS.DirEntry) : IO (String × FileNode) := do
  let data ← e.path.metadata
  if data.type == .dir then
    return (e.fileName, .directory (← (← e.path.readDir).toList.mapM readEntry))
  else return (e.fileName, .file (← IO.FS.readBinFile e.path) data.modified.sec)

/-- What is found at a path. What cannot be read counts as not there. -/
def readNode (path : String) : IO (Except FileError FileNode) := do
  try
    let place := (← IO.currentDir) / path
    if ← place.isDir then
      return .ok (.directory (← (← place.readDir).toList.mapM readEntry))
    else
      return .ok (.file (← IO.FS.readBinFile place) (← place.metadata).modified.sec)
  catch _ => return .error .notFound

def viewOf (args : List String) : IO FileView := do
  let nodes ← args.mapM fun a => return (a, ← readNode a)
  return fun path => (nodes.lookup path).getD (.error .notFound)

/-! ### Output -/

def print (p : Printout) : IO UInt32 := do
  p.out.forM fun l => IO.println l
  p.err.forM fun l => IO.eprintln l
  return p.code.toUInt32

def shown (millis : Nat) (l : Preview.Line) : String :=
  match l with
  | .text s => s
  | .turn _ _ => l.render ++ " " ++ toString millis ++ "ms"

/-! ### The shell -/

partial def converse (s : Preview.Shell) : IO UInt32 := do
  let output ← IO.getStdout
  output.putStr Preview.prompt
  output.flush
  let line ← try (← IO.getStdin).getLine catch _ => pure ""
  if line.isEmpty then return 0
  let command := Preview.Command.ofLine line
  let started ← IO.monoMsNow
  match s.run command with
  | .error f =>
    IO.eprintln f.message
    return Preview.faultCode.toUInt32
  | .ok (s, lines) =>
    let finished ← IO.monoMsNow
    lines.forM fun l => IO.println (shown (finished - started) l)
    if command = .quit then return 0 else converse s

def today : IO SessionSeed := do
  let d ← Std.Time.PlainDate.now
  let date := Date.ofNumbers? d.year d.month.toNat d.day.toNat
  return date.elim ⟨0⟩ .ofDate

def preview (args : List String) : IO UInt32 := do
  match Preview.launch (← viewOf args) (← today) args with
  | .error p => print p
  | .ok (s, greeting) =>
    greeting.forM fun l => IO.println l.render
    converse s

end NoteMuse.CommandLine

/-- The first argument names the command. -/
def main (args : List String) : IO UInt32 := do
  match args with
  | "lint" :: rest =>
    NoteMuse.CommandLine.print
      (NoteMuse.Lint.command (← NoteMuse.CommandLine.viewOf rest) rest)
  | "preview" :: rest => NoteMuse.CommandLine.preview rest
  | _ =>
    IO.eprintln "Usage: notemuse (lint | preview) [argument...]"
    return 2
