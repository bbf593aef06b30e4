import NoteMuse.Registry.Folder
import NoteMuse.Registry.State

/-!
Registries that are changed in place, one step after another. Any step may refuse, and what was done before it stays
done.
-/

namespace NoteMuse.Registry

open Format Geist

/-- What is done to a registry, step by step. -/
abbrev Edit := EStateM RegistryError Registry

namespace Edit

/-! ### Registration -/

def add (d : Descriptor) (s : Source) : Edit Unit := do
  if (← get).entries.contains d.id then
    throw (.duplicate d.id)
  modify fun r => r.put d.id ⟨d, s, 0⟩

def addGrammar (id sourceRef : String) (g : Grammar) (count : Nat) : Edit Unit :=
  add (.new id .grammar sourceRef) (.grammar (some g) count)

def addInvalid (id sourceRef reason : String) : Edit Unit :=
  add (invalidDescriptor id sourceRef reason) (.grammar none 0)

def addCode (id : String) (p : Program) : Edit Unit := add (.new id .code ("code:" ++ id)) (.code p)

/-! ### Files -/

def addFile (count : Nat) (path : String) (content : Except FileError String) : Edit String := do
  let stem := FileName.stem (Path.fileName path)
  match GeistFile.load path content with
  | .error (.unreadable e) =>
    if e ≠ .notText then
      throw (.unreadable e)
    addInvalid stem path (GeistFileError.unreadable e).message
    return stem
  | .error e =>
    addInvalid stem path e.message
    return stem
  | .ok file =>
    let id := file.id.getD stem
    match file.grammar with
    | .ok g => addGrammar id path g (file.count.getD count)
    | .error e => addInvalid id path e.message
    return id

/-- Adds the geist of an entry of a directory, and gives back its id if there is one. A file that is refused gives
a disabled geist under its stem, unless that id is taken. -/
def addEntry (count : Nat) (directory : String) (e : String × FileNode) : Edit (Option String) :=
  let path := Path.join directory e.1
  let stem := FileName.stem e.1
  tryCatch (some <$> addFile count path e.2.readText) fun cause => do
    if (← get).entries.contains stem then
      return none
    addInvalid stem path cause.message
    return some stem

def addEntries (count : Nat) (directory : String) : List (String × FileNode) → Edit (List String)
  | [] => return []
  | e :: rest => do
    let id ← addEntry count directory e
    let ids ← addEntries count directory rest
    return id.toList ++ ids

def addDirectory (count : Nat) (path : String) (content : Except FileError (List (String × FileNode))) :
    Edit (List String) :=
  match content with
  | .error e => throw (.unreadable e)
  | .ok entries => addEntries count path (entries.filter fun e => GeistFile.isName e.1)

/-! ### Health -/

def reset (id : String) : Edit Unit := do
  match (← get).lookup? id with
  | none => throw (.notFound id)
  | some e =>
    if !e.source.runnable then
      throw (.invalidGrammar id)
    modify fun r => r.put id e.restored

def restoreOne (s : SavedGeist) : Edit Bool := do
  match (← get).lookup? s.id with
  | none => return false
  | some e =>
    if !e.source.runnable then
      return false
    modify fun r => r.put s.id { e with descriptor := s.restore e.descriptor }
    return true

def restore : List SavedGeist → Edit Nat
  | [] => return 0
  | s :: rest => do
    let found ← restoreOne s
    let n ← restore rest
    return n + found.toNat

/-- Restores what a file keeps, from what reading it gives. A file that is not there keeps nothing. -/
def load (content : Except FileError String) : Edit Nat :=
  match content with
  | .error .notFound | .error .notADirectory => return 0
  | .error e => throw (.unreadable e)
  | .ok text =>
    match Ron.decode (fun d => d.list (SavedGeist.decoder d)) text with
    | .ok states => restore states
    | .error e => throw (.ron e)

end Edit

end NoteMuse.Registry
