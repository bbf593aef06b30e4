import NoteMuse.Files
import NoteMuse.Vault

/-!
Vaults from directories of Markdown files: the stem of a file is the title of its note.
-/

namespace NoteMuse.Vault

/-- The note of an entry of a directory; entries of another extension give none. -/
def noteOfEntry (directory : String) (e : String × FileNode) : Except FileError (Option Note) :=
  if FileName.extension? e.1 = some "md" then do
    let text ← e.2.readText
    return some (.ofText (FileName.stem e.1) (Path.join directory e.1) text e.2.modified)
  else return none

/-- The vault of the Markdown files of a directory, from its path and its entries. A file that cannot
be read fails the whole vault. -/
def ofDirectory (path : String) (content : Except FileError (List (String × FileNode))) :
    Except FileError Vault := do
  let notes ← (← content).mapM (noteOfEntry path)
  return .ofNotes (notes.filterMap id)

end NoteMuse.Vault
