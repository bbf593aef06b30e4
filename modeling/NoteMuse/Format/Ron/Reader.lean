import NoteMuse.Format.Ron.Token

/-!
Reading RON documents: attributes that enable extensions, then one value. A document has a number of
levels: whatever holds elements or fields takes one of them, and each element, key and value in it
takes another.
-/

namespace NoteMuse.Format.Ron

open Text

/-! ### Attributes -/

/-- The liberties that a document may take. -/
structure Extensions where
  /-- A value that is not left out needs no `Some`. -/
  implicitSome : Bool
  /-- A named wrapper is not written. -/
  unwrapNewtypes : Bool
  deriving DecidableEq, Repr

/-- What follows the marks, with gaps between them, when the text begins with all of them. -/
def skipAll : List String → List Char → Except FormatError (List Char)
  | [], cs => .ok cs
  | mark :: marks, cs =>
    match dropStart? mark.toList cs with
    | none => fail "expected attribute"
    | some rest => (skipGap rest).bind (skipAll marks)

def Extensions.enable? (x : Extensions) (name : String) : Option Extensions :=
  if name = "implicit_some" then some { x with implicitSome := true }
  else if name = "unwrap_newtypes" then some { x with unwrapNewtypes := true }
  else if name = "unwrap_variant_newtypes" then some x
  else none

def readEnabled (x : Extensions) (cs : List Char) :
    Except FormatError (Extensions × List Char) := do
  match readName? cs with
  | none => fail "expected identifier"
  | some (name, rest) =>
    match x.enable? name with
    | none => fail "no such extension"
    | some x =>
      let gap ← skipGap rest
      match ← skipChar? ',' gap with
      | none => if (gap.head?.map isNameChar).getD false then fail "expected comma" else .ok (x, gap)
      | some rest =>
        if (rest.head?.map isNameChar).getD false then
          if rest.length < cs.length then readEnabled x rest else fail "expected identifier"
        else .ok (x, rest)
termination_by cs.length

/-- The attributes at the beginning of a document, and what follows them. -/
def readAttributes (x : Extensions) (cs : List Char) :
    Except FormatError (Extensions × List Char) := do
  if cs.head? = some '#' then
    let rest ← skipAll ["#", "!", "[", "enable", "("] cs
    let (x, rest) ← readEnabled x rest
    let rest ← skipGap rest
    let rest ← skipAll [")", "]"] rest
    if rest.length < cs.length then readAttributes x rest else fail "expected attribute"
  else return (x, cs)
termination_by cs.length

/-! ### Parts of values -/

/-- Reads one level further in. -/
def nested {α : Type} (read : Reader α) : Reader α
  | 0, _ => fail "exceeded recursion limit"
  | levels + 1, cs => read levels cs

/-- What follows the character `c`, which has to be there, and the gap after it. -/
def expect (c : Char) (cs : List Char) : Except FormatError (List Char) := do
  match ← skipChar? c cs with
  | some rest => return rest
  | none => fail "unexpected character"

/-- What follows a gap, a closing parenthesis, and perhaps a comma before it. -/
def closed (cs : List Char) : Except FormatError (List Char) := do
  let gap ← skipGap cs
  match (← skipChar? ',' gap).getD gap with
  | ')' :: rest => return rest
  | _ => fail "expected closing parenthesis"

/-- Items up to the closing character, with commas between them and perhaps one after the last. -/
def items {α : Type} (close : Char) (item : Reader α) (levels : Nat) (cs : List Char) :
    Except FormatError (List α × List Char) := do
  let start ← skipGap cs
  if start.head? = some close then return ([], start.drop 1)
  else if start.isEmpty then fail "unexpected end"
  else
    let (a, rest) ← item levels start
    let rest ← skipGap rest
    match ← skipChar? ',' rest with
    | some rest =>
      if rest.length < cs.length then
        let (as, rest) ← items close item levels rest
        return (a :: as, rest)
      else fail "expected item"
    | none => if rest.head? = some close then return ([a], rest.drop 1) else fail "expected comma"
termination_by cs.length

def enclosed {α : Type} (opening close : Char) (item : Reader α) : Reader (List α) :=
  fun levels cs =>
    match cs with
    | c :: rest =>
      if c = opening then nested (items close item) levels rest else fail "unexpected character"
    | [] => fail "unexpected end"

def entry {α β : Type} (key : Reader α) (value : Reader β) : Reader (α × β) := fun levels cs => do
  let (k, rest) ← nested key levels cs
  let (v, rest) ← nested value levels (← expect ':' (← skipGap rest))
  return ((k, v), rest)

/-- The name of a field, a colon, and the value that the reader for this name reads; the value of
another field is only passed over. -/
def fieldOf {α : Type} (fields : List (String × Reader α)) (other : Reader Unit) :
    Reader (Option (String × α)) := fun levels cs => do
  match readName? cs with
  | none => fail "expected identifier"
  | some (name, rest) =>
    let rest ← expect ':' (← skipGap rest)
    match fields.lookup name with
    | some read => (nested read).map (fun a => some (name, a)) levels rest
    | none => (nested other).map (fun _ => none) levels rest

def fieldsOf {α : Type} (fields : List (String × Reader α)) (other : Reader Unit) :
    Reader (List (String × α)) :=
  (enclosed '(' ')' (fieldOf fields other)).map fun found => found.filterMap id

/-- What follows the name of a record and the gap after it. The name may be left out. -/
def skipRecordName (expected : String) (cs : List Char) : Except FormatError (List Char) :=
  if (cs.head?.map isNameChar).getD false then
    match readName? cs with
    | some (name, rest) => if name = expected then skipGap rest else fail "the record has another name"
    | none => fail "expected the name of a record"
  else skipGap cs

/-- `None`, or `Some` and a value in parentheses. With the extension for it the value may stand
without parentheses, after `Some` or alone. -/
def optionalOf {α : Type} (x : Extensions) (read : Reader α) : Reader (Option α) :=
  fun levels cs => do
    let bare : Reader (Option α) :=
      if x.implicitSome then (nested read).map some else fun _ _ => fail "expected an optional value"
    match dropStart? "None".toList cs, dropStart? "Some".toList cs with
    | some rest, _ => return (none, rest)
    | none, none => bare levels cs
    | none, some rest =>
      let gap ← skipGap rest
      match ← skipChar? '(' gap with
      | none => bare levels gap
      | some inner =>
        let (a, rest) ← nested read levels inner
        return (some a, ← closed rest)

/-! ### Values that are passed over -/

def startsField (cs : List Char) : Bool :=
  match readName? cs with
  | none => false
  | some (_, rest) =>
    match skipGap rest with
    | .ok (':' :: _) => true
    | _ => false

def ignoring {α : Type} (read : Reader α) : Reader Unit := read.map fun _ => ()

/-- What follows a row of values or a record in parentheses, at the front; when there is none nothing
is passed over. -/
def skipParenthesized (value : Reader Unit) : Reader Unit := fun levels cs => do
  match ← skipChar? '(' cs with
  | none => return ((), cs)
  | some inner =>
    if startsField inner then ignoring (@fieldsOf Unit [] value) levels cs
    else ignoring (enclosed '(' ')' (nested value)) levels cs

/-- What a reader gives that keeps nothing, from what follows the value it passes over. -/
def passed (rest : Option (List Char)) : Except FormatError (Unit × List Char) :=
  match rest with
  | some rest => .ok ((), rest)
  | none => fail "malformed value"

/-- Passes over a value of any kind, which shows itself by its first characters. -/
def skipValue (x : Extensions) (levels : Nat) (cs : List Char) :
    Except FormatError (Unit × List Char) := do
  let inner : Reader Unit := fun l cs =>
    if _ : l < levels then skipValue x l cs else fail "exceeded recursion limit"
  if let some rest := dropWords? ["true", "false", "None", "inf", "NaN"] cs then return ((), rest)
  else if (dropWords? ["Some"] cs).isSome then
    ignoring (optionalOf x inner) levels cs
  else if let some rest := dropStart? ['(', ')'] cs then return ((), rest)
  else if let some (_, rest) := readName? cs then skipParenthesized inner levels (← skipGap rest)
  else
    match cs with
    | [] => fail "unexpected end"
    | c :: rest =>
      if c = '(' then skipParenthesized inner levels cs
      else if c = '[' then ignoring (enclosed '[' ']' (nested inner)) levels cs
      else if c = '\x7b' then ignoring (enclosed '\x7b' '\x7d' (entry inner inner)) levels cs
      else if c = '"' || c = 'r' then passed ((readText? cs).map (·.2))
      else if c = '\'' then passed (skipQuotedChar? rest)
      else if c = '.' then passed (skipFloat? cs)
      else if Decimal.isDigit c || c = '+' || c = '-' then passed (skipNumber? cs)
      else fail "unexpected character"
termination_by levels

/-! ### Documents -/

/-- Reads a token, whose levels do not matter, or fails with the reason. -/
def token {α : Type} (reason : String) (read : List Char → Option (α × List Char)) : Reader α :=
  fun _ cs => (read cs).elim (fail reason) .ok

/-- A value in parentheses, which a name may stand before. -/
def wrappedOf {α : Type} (name : String) (read : Reader α) : Reader α := fun levels cs => do
  let (a, rest) ← nested read levels (← expect '(' (← skipRecordName name cs))
  return (a, ← closed rest)

def dialect (x : Extensions) : Dialect where
  text := token "expected a text" readText?
  natural := fun limit =>
    token "expected a whole number" fun cs => (readInteger? cs).filter fun p => p.1 < limit
  truth := token "expected a truth value" fun cs =>
    ((dropWords? ["true"] cs).map fun rest => (true, rest)).or
      ((dropWords? ["false"] cs).map fun rest => (false, rest))
  optional := optionalOf x
  list := fun item => enclosed '[' ']' (nested item)
  table := fun value =>
    enclosed '\x7b' '\x7d' (entry (token "expected a text" readText?) value)
  record := fun name fields levels cs => do
    fieldsOf fields (skipValue x) levels (← skipRecordName name cs)
  wrapped := fun name read => if x.unwrapNewtypes then nested read else wrappedOf name read

def maxLevels : Nat := 128

/-- The document that a text holds. -/
def decode {α : Type} (d : Decoder α) (text : String) : Except FormatError α := do
  let (x, cs) ← readAttributes ⟨false, false⟩ (← skipGap text.toList)
  let (a, rest) ← d (dialect x) maxLevels cs
  match ← skipGap rest with
  | [] => return a
  | _ => fail "trailing characters"

end NoteMuse.Format.Ron
