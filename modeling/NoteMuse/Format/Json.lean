import NoteMuse.Decimal.Digits
import NoteMuse.Format.Dialect
import NoteMuse.Text.Split

/-!
Reading JSON documents. A record is an object, or an array of its fields in order with those at the
end left out. A text that is used has to be whole: an escape that names half of a surrogate pair
needs the other half after it.
-/

namespace NoteMuse.Format.Json

open Decimal

/-! ### Texts -/

/-- What follows white space. -/
def skipGap (cs : List Char) : List Char :=
  cs.dropWhile fun c => [' ', '\n', '\t', '\r'].contains c

/-- A code unit of a text: a character, or half of a surrogate pair. -/
abbrev Unit16 := Char ⊕ Nat

/-- The unit that four hexadecimal digits name. -/
def unitOf (a b c d : Char) : Option Unit16 := do
  let n := 4096 * (← hexValue? a) + 256 * (← hexValue? b) + 16 * (← hexValue? c) + (← hexValue? d)
  if h : n.isValidChar then some (.inl (Char.ofNatAux n h)) else some (.inr n)

/-- The units up to the closing quote, after the opening one. -/
def readUnits : List Char → Option (List Unit16 × List Char)
  | [] => none
  | '"' :: rest => some ([], rest)
  | '\\' :: 'u' :: a :: b :: c :: d :: rest =>
    (unitOf a b c d).bind fun u => (readUnits rest).map fun p => (u :: p.1, p.2)
  | '\\' :: c :: rest =>
    ([('"', '"'), ('\\', '\\'), ('/', '/'), ('b', '\x08'), ('f', '\x0c'), ('n', '\n'),
      ('r', '\r'), ('t', '\t')].lookup c).bind fun d =>
        (readUnits rest).map fun p => (.inl d :: p.1, p.2)
  | c :: rest =>
    if c.toNat < 32 || c = '\\' then none else (readUnits rest).map fun p => (.inl c :: p.1, p.2)

/-- The characters of units; a high half has to be followed by a low one. -/
def joinUnits : List Unit16 → Option (List Char)
  | [] => some []
  | .inl c :: rest => (joinUnits rest).map (c :: ·)
  | .inr hi :: .inr lo :: rest =>
    if hi < 0xDC00 && 0xDC00 ≤ lo then
      (joinUnits rest).map (Char.ofNat (0x10000 + 1024 * (hi - 0xD800) + (lo - 0xDC00)) :: ·)
    else none
  | .inr _ :: _ => none

def readText : Reader String := fun _ cs =>
  match skipGap cs with
  | '"' :: rest =>
    match readUnits rest with
    | some (units, rest) =>
      (joinUnits units).elim (fail "lone surrogate") fun s => .ok (String.ofList s, rest)
    | none => fail "malformed string"
  | _ => fail "expected a text"

/-! ### Numbers -/

/-- What follows a fraction, when there is one. -/
def skipFraction? : List Char → Option (List Char)
  | '.' :: rest =>
    if (rest.takeWhile isDigit).isEmpty then none else some (rest.dropWhile isDigit)
  | cs => some cs

def skipExponent? : List Char → Option (List Char)
  | c :: rest =>
    if c = 'e' || c = 'E' then
      let ds := (readSign rest).2
      if (ds.takeWhile isDigit).isEmpty then none else some (ds.dropWhile isDigit)
    else some (c :: rest)
  | [] => some []

/-- The number at the front, when it is whole and has no sign, and what follows it. A leading zero
stands alone. -/
def readNumber? (cs : List Char) : Option (Option Nat × List Char) :=
  let body := if cs.head? = some '-' then cs.drop 1 else cs
  let whole := body.takeWhile isDigit
  let after := body.dropWhile isDigit
  if whole.isEmpty || (1 < whole.length && whole.head? = some '0') then none
  else
    (skipFraction? after).bind fun rest =>
      (skipExponent? rest).map fun rest =>
        (if rest.length = after.length && cs.head? ≠ some '-' then some (value whole) else none, rest)

def readNatural (limit : Nat) : Reader Nat := fun _ cs =>
  match readNumber? (skipGap cs) with
  | some (some n, rest) => if n < limit then .ok (n, rest) else fail "the number is out of range"
  | _ => fail "expected a whole number"

/-! ### Parts of values -/

/-- Items up to the closing character, with commas between them, after the first item is known to be
there. -/
def items {α : Type} (close : Char) (item : Reader α) (levels : Nat) (cs : List Char) :
    Except FormatError (List α × List Char) := do
  let (a, rest) ← item levels (skipGap cs)
  match skipGap rest with
  | c :: rest =>
    if c = close then return ([a], rest)
    else if c = ',' && rest.length < cs.length then
      let (as, rest) ← items close item levels rest
      return (a :: as, rest)
    else fail "expected comma or end"
  | [] => fail "unexpected end"
termination_by cs.length
decreasing_by simp_all

def enclosed {α : Type} (opening close : Char) (item : Reader α) : Reader (List α) :=
  fun levels cs =>
    match skipGap cs with
    | c :: rest =>
      if c ≠ opening then fail "expected list"
      else if (skipGap rest).head? = some close then .ok ([], (skipGap rest).drop 1)
      else items close item levels rest
    | [] => fail "unexpected end"

def skipColon (cs : List Char) : Except FormatError (List Char) :=
  match skipGap cs with
  | ':' :: rest => .ok rest
  | _ => fail "expected colon"

/-- A key, a colon, and the value that the reader for this key reads. -/
def entry {α : Type} (value : String → Reader α) : Reader α := fun levels cs => do
  let (k, rest) ← readText levels cs
  value k levels (← skipColon rest)

/-- What follows a word with a meaning of its own. -/
def dropWord? (word : String) (cs : List Char) : Option (List Char) :=
  Text.dropStart? word.toList (skipGap cs)

/-! ### Values that are passed over -/

/-- What follows a text, which may have halves of surrogate pairs. -/
def skipText (cs : List Char) : Except FormatError (List Char) :=
  match cs with
  | '"' :: rest => (readUnits rest).elim (fail "malformed string") fun p => .ok p.2
  | _ => fail "expected a text"

def skipAtom (cs : List Char) : Except FormatError (List Char) :=
  ((["null", "true", "false"].findSome? fun w => dropWord? w cs).or
    ((readNumber? cs).map (·.2))).elim (fail "expected value") .ok

def skipValue : Reader Unit
  | 0, _ => fail "recursion limit exceeded"
  | levels + 1, cs =>
    let member : Reader Unit := fun _ cs => do
      skipValue levels (← skipColon (← skipText cs))
    match skipGap cs with
    | '[' :: rest =>
      (enclosed '[' ']' (fun _ => skipValue levels) levels ('[' :: rest)).map fun p => ((), p.2)
    | '\x7b' :: rest =>
      (enclosed '\x7b' '\x7d' member levels ('\x7b' :: rest)).map fun p => ((), p.2)
    | '"' :: rest => (skipText ('"' :: rest)).map fun rest => ((), rest)
    | cs => (skipAtom cs).map fun rest => ((), rest)

/-! ### Documents -/

/-- The value of a field that has this name, or nothing for the value of another one. -/
def fieldOf {α : Type} (fields : List (String × Reader α)) (name : String) :
    Reader (Option (String × α)) :=
  match fields.lookup name with
  | some read => read.map fun a => some (name, a)
  | none => skipValue.map fun _ => none

/-- The elements of an array up to its end, each read by the reader of the field in its place, after
the first is known to be there. -/
def elements {α : Type} : List (String × Reader α) → Reader (List (String × α))
  | [], _, _ => fail "too many fields"
  | (name, read) :: fields, levels, cs => do
    let (a, rest) ← read levels cs
    match skipGap rest with
    | ']' :: rest => return ([(name, a)], rest)
    | ',' :: rest =>
      let (as, rest) ← elements fields levels rest
      return ((name, a) :: as, rest)
    | _ => fail "expected comma or end"

/-- The fields of a record, which is an object or an array. -/
def readRecord {α : Type} (fields : List (String × Reader α)) : Reader (List (String × α)) :=
  fun levels cs =>
    match skipGap cs with
    | '[' :: rest =>
      if (skipGap rest).head? = some ']' then .ok ([], (skipGap rest).drop 1)
      else elements fields levels rest
    | cs =>
      ((enclosed '\x7b' '\x7d' (entry (fieldOf fields))).map fun found => found.filterMap id)
        levels cs

/-- `null`, or the value itself. -/
def readOptional {α : Type} (read : Reader α) : Reader (Option α) := fun levels cs =>
  match dropWord? "null" cs with
  | some rest => .ok (none, rest)
  | none => read.map some levels cs

def readTruth : Reader Bool := fun _ cs =>
  (((dropWord? "true" cs).map fun rest => (true, rest)).or
    ((dropWord? "false" cs).map fun rest => (false, rest))).elim (fail "expected a truth value") .ok

def dialect : Dialect where
  text := readText
  natural := readNatural
  truth := readTruth
  optional := readOptional
  list := enclosed '[' ']'
  table := fun value => enclosed '\x7b' '\x7d' (entry fun k => value.map fun a => (k, a))
  record := fun _ => readRecord
  wrapped := fun _ read => read

/-- The document that a text holds. -/
def decode {α : Type} (d : Decoder α) (text : String) : Except FormatError α := do
  let (a, rest) ← d dialect (text.length + 1) text.toList
  match skipGap rest with
  | [] => return a
  | _ => fail "trailing characters"

end NoteMuse.Format.Json
