/-!
How documents are read in a data format. A dialect has a reader for every kind of value, and a
document is read by putting such readers together, so that each part of a text is read as what the
document has in its place.
-/

namespace NoteMuse.Format

/-- Why a text is not the document it should be. -/
structure FormatError where
  reason : String
  deriving DecidableEq, Repr

def fail {α : Type} (reason : String) : Except FormatError α := .error ⟨reason⟩

/-- Reads the value at the front of a text, and gives back what is left. The number bounds how deep
the parts of the value may be nested. -/
abbrev Reader (α : Type) := Nat → List Char → Except FormatError (α × List Char)

def Reader.map {α β : Type} (f : α → β) (read : Reader α) : Reader β := fun levels cs =>
  (read levels cs).map fun p => (f p.1, p.2)

/-- The readers of a format. -/
structure Dialect where
  text : Reader String
  /-- A whole number below the limit. -/
  natural : Nat → Reader Nat
  truth : Reader Bool
  /-- A value that may be left out explicitly. -/
  optional : {α : Type} → Reader α → Reader (Option α)
  list : {α : Type} → Reader α → Reader (List α)
  /-- Keys and values in the order of the text. -/
  table : {α : Type} → Reader α → Reader (List (String × α))
  /-- The fields of a record with the given name, in the order of the text. A field is read by the
  reader for its name; others are passed over. -/
  record : {α : Type} → String → List (String × Reader α) → Reader (List (String × α))
  /-- The value inside a named wrapper. -/
  wrapped : {α : Type} → String → Reader α → Reader α

/-- Reads a document in any format. -/
abbrev Decoder (α : Type) := Dialect → Reader α

/-- The number of values of an unsigned word of 64 bits. -/
def wordLimit : Nat := UInt64.size

/-! ### Records -/

/-- A field of a record that is read into `σ`. -/
structure Field (σ : Type) where
  name : String
  /-- The record has to have it. -/
  isRequired : Bool
  /-- Reads the value, and says what it makes of the record. -/
  read : Reader (σ → σ)

namespace Field

def required {σ α : Type} (name : String) (read : Reader α) (set : α → σ → σ) : Field σ :=
  ⟨name, true, read.map set⟩

def optional {σ α : Type} (name : String) (read : Reader α) (set : α → σ → σ) : Field σ :=
  ⟨name, false, read.map set⟩

/-- What the fields found in a text make of a record. Each may be found once, and those that are
required have to be found. -/
def assemble {σ : Type} (fields : List (Field σ)) (start : σ) (found : List (String × (σ → σ))) :
    Except FormatError σ :=
  let names := found.map (·.1)
  if !decide names.Nodup then fail "duplicate field"
  else if fields.any fun f => f.isRequired && !names.contains f.name then fail "missing field"
  else .ok (found.foldl (fun s f => f.2 s) start)

end Field

/-- A record that begins as `start` and takes what its fields make of it. -/
def Dialect.structured {σ : Type} (d : Dialect) (name : String) (start : σ)
    (fields : List (Field σ)) : Reader σ := fun levels cs => do
  let (found, rest) ← d.record name (fields.map fun f => (f.name, f.read)) levels cs
  return (← Field.assemble fields start found, rest)

end NoteMuse.Format
