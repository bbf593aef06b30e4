import NoteMuse.Text.Split

/-!
Files as values: a tree of directories, the bytes of its files, and what reading them gives. A path
is written with strokes between its names; the last dot of a name separates its stem from its
extension. Names are texts: a name whose bytes are no text is left out, and with it the name that
stands in for the stem of such a file.
-/

namespace NoteMuse

/-- Why a file or a directory cannot be read. -/
inductive FileError where
  | notFound
  | isDirectory
  | notADirectory
  | notText
  deriving DecidableEq, Repr

namespace FileError

def message : FileError → String
  | notFound => "No such file or directory (os error 2)"
  | isDirectory => "Is a directory (os error 21)"
  | notADirectory => "Not a directory (os error 20)"
  | notText => "stream did not contain valid UTF-8"

end FileError

/-! ### Names -/

namespace FileName

/-- What stands before and after the last dot. A name without a dot, or with one at its beginning
only, has no such parts. -/
def split? (name : String) : Option (String × String) :=
  match (Text.splitOn ['.'] name.toList).reverse with
  | ext :: before :: rest =>
    let stem := ['.'].intercalate (before :: rest).reverse
    if stem.isEmpty || name = ".." then none
    else some (String.ofList stem, String.ofList ext)
  | _ => none

/-- The name without its extension. A path without a last name has no stem, but what is there is a
directory, and no geist is ever called after it. -/
def stem (name : String) : String := ((split? name).map Prod.fst).getD name

def extension? (name : String) : Option String := (split? name).map Prod.snd

end FileName

/-! ### Paths -/

namespace Path

def join (directory name : String) : String :=
  if directory.isEmpty || directory.toList.getLast? = some '/' then directory ++ name
  else directory ++ "/" ++ name

def names (path : String) : List String :=
  (Text.pieces "/" path).filter fun part => part ≠ "" && part ≠ "."

def fileName (path : String) : String := (names path).getLast?.getD ""

end Path

/-! ### Trees -/

/-- A file, or a directory with named entries. -/
inductive FileNode where
  /-- A file with its bytes and the time of its last change. -/
  | file (bytes : ByteArray) (modified : Int)
  | directory (entries : List (String × FileNode))

namespace FileNode

/-- The entries of a directory in the order of their names. -/
def sorted (entries : List (String × FileNode)) : List (String × FileNode) :=
  entries.mergeSort fun a b => a.1 ≤ b.1

/-- Goes along the parts of a path: an empty part or a dot stays, two dots go back to the last of the
directories that were passed, and any other part is the name of an entry. -/
def follow (passed : List FileNode) : FileNode → List String → Except FileError FileNode
  | node, [] => .ok node
  | .file _ _, _ :: _ => .error .notADirectory
  | .directory entries, part :: rest =>
    if part = "" || part = "." then follow passed (.directory entries) rest
    else if part = ".." then
      match passed with
      | [] => follow [] (.directory entries) rest
      | up :: passed => follow passed up rest
    else
      match entries.lookup part with
      | some node => follow (.directory entries :: passed) node rest
      | none => .error .notFound

def at? (node : FileNode) (path : String) : Except FileError FileNode :=
  if path.isEmpty || path.toList.head? = some '/' then .error .notFound
  else node.follow [] (Text.pieces "/" path)

/-- The time of the last change of a file; for a directory it is not kept. -/
def modified : FileNode → Int
  | .file _ time => time
  | .directory _ => 0

def readText : FileNode → Except FileError String
  | .directory _ => .error .isDirectory
  | .file bytes _ =>
    match String.fromUTF8? bytes with
    | some s => .ok s
    | none => .error .notText

def readDirectory : FileNode → Except FileError (List (String × FileNode))
  | .directory entries => .ok (sorted entries)
  | .file _ _ => .error .notADirectory

/-- The entries with a node put at the end of a way of names; directories on the way are made as
needed. An empty directory leaves one that is there as it is. -/
def putIn (node : FileNode) : List String → List (String × FileNode) → List (String × FileNode)
  | [], entries => entries
  | [name], entries =>
    match node, entries.lookup name with
    | .directory [], some (.directory _) => entries
    | _, _ => entries.filter (fun e => e.1 ≠ name) ++ [(name, node)]
  | name :: rest, entries =>
    let inner :=
      match entries.lookup name with
      | some (.directory inner) => inner
      | _ => []
    entries.filter (fun e => e.1 ≠ name) ++ [(name, .directory (putIn node rest inner))]

/-- A directory of nodes, each with its path. -/
def ofPaths (nodes : List (String × FileNode)) : FileNode :=
  .directory (nodes.foldl (fun entries n => putIn n.2 (Path.names n.1) entries) [])

end FileNode

/-! ### Views -/

/-- What is found at each path. -/
abbrev FileView := String → Except FileError FileNode

namespace FileView

def readText (v : FileView) (path : String) : Except FileError String := do (← v path).readText

def readDirectory (v : FileView) (path : String) : Except FileError (List (String × FileNode)) := do
  (← v path).readDirectory

end FileView

end NoteMuse
