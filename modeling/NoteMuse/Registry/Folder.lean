import NoteMuse.Grammar.File
import NoteMuse.Registry

/-!
Grammar geists from files and from directories of files. A file whose grammar is not valid gives a
disabled geist; in a directory a file that gives no geist of its own gives a disabled one under its
stem, unless that id is taken.
-/

namespace NoteMuse.Registry

/-- Adds the geist of a file, from its path and from what reading it gives, and gives back its id. A
file that does not say how many suggestions to make makes `count`. -/
def addFile (r : Registry) (count : Nat) (path : String) (content : Except FileError String) :
    Except RegistryError (Registry × String) := do
  let stem := FileName.stem (Path.fileName path)
  match GeistFile.load path content with
  | .error (.unreadable e) =>
    if e = .notText then
      return (← r.addInvalid stem path (GeistFileError.unreadable e).message, stem)
    else throw (.unreadable e)
  | .error e => return (← r.addInvalid stem path e.message, stem)
  | .ok file =>
    let id := file.id.getD stem
    match file.grammar with
    | .ok g => return (← r.addGrammar id path g (file.count.getD count), id)
    | .error e => return (← r.addInvalid id path e.message, id)

/-- Adds the geist of an entry of a directory, and gives back its id if there is one. -/
def addEntry (r : Registry) (count : Nat) (directory : String) (e : String × FileNode) :
    Registry × Option String :=
  let path := Path.join directory e.1
  match r.addFile count path e.2.readText with
  | .ok (r, id) => (r, some id)
  | .error cause =>
    match r.addInvalid (FileName.stem e.1) path cause.message with
    | .ok r => (r, some (FileName.stem e.1))
    | .error _ => (r, none)

def addEntries (count : Nat) (directory : String) :
    Registry → List (String × FileNode) → Registry × List String
  | r, [] => (r, [])
  | r, e :: rest =>
    let (r, id) := r.addEntry count directory e
    let (r, ids) := addEntries count directory r rest
    (r, id.toList ++ ids)

def addDirectory (r : Registry) (count : Nat) (path : String)
    (content : Except FileError (List (String × FileNode))) :
    Except RegistryError (Registry × List String) :=
  match content with
  | .error e => .error (.unreadable e)
  | .ok entries => .ok (addEntries count path r (entries.filter fun e => GeistFile.isName e.1))

end NoteMuse.Registry
