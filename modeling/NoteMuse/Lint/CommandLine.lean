import NoteMuse.Grammar.File
import NoteMuse.Host.Builtin
import NoteMuse.Lint
import NoteMuse.Terminal

/-!
The lint command: it looks at a grammar file, or at all grammar files below a directory, and prints
what it finds. Errors make it fail, warnings do not.
-/

namespace NoteMuse.Lint

/-! ### Files -/

mutual

/-- The files at or below a path, in the order of their paths. -/
def filesAt (path : String) : FileNode → List (String × FileNode)
  | .file bytes modified => [(path, .file bytes modified)]
  | .directory entries =>
    ((filesUnder path entries).mergeSort fun a b => a.1 ≤ b.1).flatMap Prod.snd

def filesUnder (path : String) :
    List (String × FileNode) → List (String × List (String × FileNode))
  | [] => []
  | (name, node) :: rest => (name, filesAt (Path.join path name) node) :: filesUnder path rest

end

/-- The grammar files at or below a path. -/
def grammarFiles (path : String) (node : FileNode) : List (String × FileNode) :=
  (filesAt path node).filter fun f => GeistFile.isName (Path.fileName f.1)

/-! ### Findings -/

/-- What there is to say about files. -/
structure Findings where
  /-- The files that hold a grammar, each with the number of its symbols. -/
  loaded : List (String × Nat)
  errors : List String
  warnings : List String
  deriving DecidableEq, Repr

namespace Findings

def none : Findings := ⟨[], [], []⟩

def append (a b : Findings) : Findings :=
  ⟨a.loaded ++ b.loaded, a.errors ++ b.errors, a.warnings ++ b.warnings⟩

/-- The file gives no grammar. -/
def ofError (path message : String) : Findings := ⟨[], [path ++ ": " ++ message], []⟩

def ofFile (fs : Host.Functions) (f : String × FileNode) : Findings :=
  match GeistFile.load f.1 f.2.readText with
  | .error e => ofError f.1 e.message
  | .ok file =>
    match file.grammar with
    | .error e => ofError f.1 e.message
    | .ok g => {
        loaded := [(f.1, g.names.length)]
        errors := (Lint.errors g fs).map fun x => f.1 ++ ": " ++ x.message
        warnings := (Lint.warnings g (file.count.getD 1)).map fun x => f.1 ++ ": " ++ x.message }

end Findings

/-! ### Output -/

/-- The report on files. -/
def report (files : Nat) (f : Findings) : Printout where
  out :=
    f.loaded.map (fun l => "  Loaded: " ++ l.1 ++ " (" ++ toString l.2 ++ " symbols)") ++
    ["", "=== Grammar Lint Report ===", ""] ++
    (if f.errors.isEmpty && f.warnings.isEmpty then ["All checks passed!"] else []) ++
    f.warnings.map ("WARNING: " ++ ·) ++ f.errors.map ("ERROR: " ++ ·) ++
    ["", "Summary: " ++ toString files ++ " files, " ++ toString f.errors.length ++ " errors, " ++
      toString f.warnings.length ++ " warnings"]
  err := []
  code := if f.errors.isEmpty then 0 else 1

def lintFiles (files : List (String × FileNode)) : Printout :=
  report files.length ((files.map (Findings.ofFile .builtin)).foldl .append .none)

def command (view : FileView) : List String → Printout
  | [] => ⟨["Usage: grammar_linter <geist_file_or_dir>"], [], 0⟩
  | path :: _ =>
    if path = "--help" || path = "-h" then ⟨["Usage: grammar_linter <geist_file_or_dir>"], [], 0⟩
    else
      match view path with
      | .ok (.file bytes modified) => lintFiles [(path, .file bytes modified)]
      | .ok (.directory entries) => lintFiles (grammarFiles path (.directory entries))
      | .error _ => ⟨[], ["ERROR: Path '" ++ path ++ "' does not exist"], 1⟩

end NoteMuse.Lint
