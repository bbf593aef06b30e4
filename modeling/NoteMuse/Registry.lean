import NoteMuse.Files
import NoteMuse.Format.Dialect
import NoteMuse.Geist
import NoteMuse.Geist.Source
import Std.Data.ExtTreeMap

/-!
The registry: all geists by id, each with its descriptor and its source. A geist whose grammar is not
valid is registered all the same, disabled, and cannot be enabled again.
-/

namespace NoteMuse

open Format Geist

/-- A registered geist. -/
structure Entry where
  descriptor : Descriptor
  source : Source
  /-- The number of turns it took. -/
  turns : Nat

/-- The entry, enabled and with its streak of failures ended. -/
def Entry.restored (e : Entry) : Entry :=
  { e with descriptor := { e.descriptor.recordSuccess with enabled := true } }

/-- Geists by id. -/
structure Registry where
  entries : Std.ExtTreeMap String Entry

/-- Why the registry refuses. -/
inductive RegistryError where
  | duplicate (id : String)
  | notFound (id : String)
  | invalidGrammar (id : String)
  | unreadable (cause : FileError)
  | ron (cause : FormatError)
  deriving DecidableEq, Repr

def RegistryError.message : RegistryError → String
  | duplicate id => "geist '" ++ id ++ "' is already registered"
  | notFound id => "no geist with id '" ++ id ++ "'"
  | invalidGrammar id =>
    "geist '" ++ id ++ "' failed validation and cannot be re-enabled until its grammar is fixed"
  | unreadable e => "IO error: " ++ e.message
  | ron e => "RON deserialization error: " ++ e.reason

namespace Registry

def empty : Registry := ⟨∅⟩

/-! ### Views -/

def lookup? (r : Registry) (id : String) : Option Entry := r.entries[id]?

def descriptor? (r : Registry) (id : String) : Option Descriptor :=
  (r.lookup? id).map Entry.descriptor

def source? (r : Registry) (id : String) : Option Source := (r.lookup? id).map Entry.source

/-- The ids, ascending; geists take their turns in this order. -/
def ids (r : Registry) : List String := r.entries.keys

def descriptors (r : Registry) : List Descriptor := r.entries.values.map Entry.descriptor

def size (r : Registry) : Nat := r.entries.size

/-! ### Registration -/

/-- Puts an entry in the place of the one with this id, or adds it. -/
def put (r : Registry) (id : String) (e : Entry) : Registry := ⟨r.entries.insert id e⟩

/-- Adds a geist under a new id. -/
def add (r : Registry) (d : Descriptor) (s : Source) : Except RegistryError Registry :=
  if r.entries.contains d.id then .error (.duplicate d.id) else .ok (r.put d.id ⟨d, s, 0⟩)

def addGrammar (r : Registry) (id sourceRef : String) (g : Grammar) (count : Nat) :
    Except RegistryError Registry :=
  r.add (.new id .grammar sourceRef) (.grammar (some g) count)

def invalidDescriptor (id sourceRef reason : String) : Descriptor :=
  { Descriptor.new id .grammar sourceRef with
    enabled := false, lastError := some (ErrorKind.validation.label ++ ": " ++ reason) }

/-- Adds a geist whose grammar is not valid. -/
def addInvalid (r : Registry) (id sourceRef reason : String) : Except RegistryError Registry :=
  r.add (invalidDescriptor id sourceRef reason) (.grammar none 0)

def addCode (r : Registry) (id : String) (p : Program) : Except RegistryError Registry :=
  r.add (.new id .code ("code:" ++ id)) (.code p)

/-! ### Enabling -/

/-- Enables a geist and ends its streak of failures. -/
def reset (r : Registry) (id : String) : Except RegistryError Registry :=
  match r.lookup? id with
  | none => .error (.notFound id)
  | some e =>
    if e.source.runnable then .ok (r.put id e.restored) else .error (.invalidGrammar id)

end Registry

end NoteMuse
