import NoteMuse.Files
import NoteMuse.Format.Json
import NoteMuse.Format.Ron.Reader
import NoteMuse.Grammar

/-!
Grammar geists as files: a symbol table with an optional id, description and number of suggestions,
in one of two formats, which the extension of the file tells apart.
-/

namespace NoteMuse

open Format

/-- A grammar geist as it is written down. -/
structure GeistFile where
  id : Option String
  description : Option String
  /-- How many suggestions the geist makes in a session. -/
  count : Option Nat
  table : SymbolTable

/-- Why a file holds no symbol table. -/
inductive GeistFileError where
  | unsupported (extension : String)
  | unreadable (cause : FileError)
  | ron (cause : FormatError)
  | json (cause : FormatError)
  deriving DecidableEq, Repr

def GeistFileError.message : GeistFileError → String
  | unsupported ext => "unsupported grammar file extension: " ++ ext
  | unreadable e => "IO error: " ++ e.message
  | ron e => "RON deserialization error: " ++ e.reason
  | json e => "JSON deserialization error: " ++ e.reason

/-! ### Documents -/

/-- A symbol table as a document. Of two entries for a symbol the later one counts. -/
def SymbolTable.decoder : Decoder SymbolTable := fun d =>
  (d.table (d.list d.text)).map fun rows => Std.ExtTreeMap.ofList rows

namespace GeistFile

/-- A grammar geist as a document; all but the table may be left out. -/
def decoder : Decoder GeistFile := fun d =>
  d.structured "GrammarGeistFile" { id := none, description := none, count := none, table := ∅ } [
    .optional "id" (d.optional d.text) fun id f => { f with id },
    .optional "description" (d.optional d.text) fun description f => { f with description },
    .optional "count" (d.optional (d.natural wordLimit)) fun count f => { f with count },
    .required "tracery" (SymbolTable.decoder d) fun table f => { f with table }]

def ofRon {α : Type} (d : Decoder α) (text : String) : Except GeistFileError α :=
  (Ron.decode d text).mapError .ron

def ofJson {α : Type} (d : Decoder α) (text : String) : Except GeistFileError α :=
  (Json.decode d text).mapError .json

/-- The geist in a file, from its path and from what reading it gives. -/
def load (path : String) (content : Except FileError String) : Except GeistFileError GeistFile := do
  let text ← content.mapError .unreadable
  match FileName.extension? (Path.fileName path) with
  | some "ron" => ofRon decoder text
  | some "json" => ofJson decoder text
  | ext => throw (.unsupported (ext.getD ""))

/-- The name is that of a grammar file. Only a text can be asked; a name whose bytes are no text may end
like one too, and is left out. -/
def isName (name : String) : Bool :=
  FileName.extension? name = some "ron" || FileName.extension? name = some "json"

def grammar (f : GeistFile) : Except GrammarError Grammar := Grammar.ofTable f.table

end GeistFile

end NoteMuse
