import NoteMuse.Format.Ron.Printer
import NoteMuse.Format.Ron.Reader
import NoteMuse.Registry

/-!
The part of a registry that outlives an engine: for every geist whether it is enabled, its streak of
failures and its last error. It is written as RON, and read back when the same geists are loaded
again.
-/

namespace NoteMuse

open Format

/-- What is kept of a descriptor. -/
structure SavedGeist where
  id : String
  enabled : Bool
  failures : UInt32
  lastError : Option String
  deriving DecidableEq, Repr

namespace SavedGeist

def ofDescriptor (d : Geist.Descriptor) : SavedGeist := ⟨d.id, d.enabled, d.failures, d.lastError⟩

/-- The descriptor with what was kept. -/
def restore (s : SavedGeist) (d : Geist.Descriptor) : Geist.Descriptor :=
  { d with enabled := s.enabled, failures := s.failures, lastError := s.lastError }

/-- The geist as a value: its id stands in a wrapper. -/
def value (s : SavedGeist) : Ron.Value :=
  .record [
    ("id", .tuple [.text s.id]),
    ("enabled", .truth s.enabled),
    ("consecutive_failures", .natural s.failures.toNat),
    ("last_error", s.lastError.elim .none fun m => .some (.text m))]

/-- The geist as a document; the last error may be left out. -/
def decoder : Decoder SavedGeist := fun d =>
  d.structured "DescriptorState" { id := "", enabled := true, failures := 0, lastError := none } [
    .required "id" (d.wrapped "GeistId" d.text) fun id s => { s with id },
    .required "enabled" d.truth fun enabled s => { s with enabled },
    .required "consecutive_failures" (d.natural UInt32.size)
      fun n s => { s with failures := n.toUInt32 },
    .optional "last_error" (d.optional d.text) fun lastError s => { s with lastError }]

end SavedGeist

namespace Registry

/-- What is kept of the registry, ascending by id. -/
def saved (r : Registry) : List SavedGeist := r.descriptors.map .ofDescriptor

def savedText (r : Registry) : String := (Ron.Value.list (r.saved.map SavedGeist.value)).pretty 0

/-- Restores one geist, and says whether there was one to restore: a geist that is not registered or
cannot run is left alone. -/
def restoreOne (r : Registry) (s : SavedGeist) : Registry × Bool :=
  match r.lookup? s.id with
  | none => (r, false)
  | some e =>
    if e.source.runnable then (r.put s.id { e with descriptor := s.restore e.descriptor }, true)
    else (r, false)

/-- Restores geists one after another, and counts how often there was one to restore. -/
def restore (r : Registry) : List SavedGeist → Registry × Nat
  | [] => (r, 0)
  | s :: rest =>
    let (r, found) := r.restoreOne s
    let (r, n) := r.restore rest
    (r, n + found.toNat)

/-- Restores what a file keeps, from what reading it gives. A file that is not there keeps nothing. -/
def load (r : Registry) : Except FileError String → Except RegistryError (Registry × Nat)
  | .error .notFound | .error .notADirectory => .ok (r, 0)
  | .error e => .error (.unreadable e)
  | .ok text =>
    match Ron.decode (fun d => d.list (SavedGeist.decoder d)) text with
    | .ok states => .ok (r.restore states)
    | .error e => .error (.ron e)

end Registry

end NoteMuse
