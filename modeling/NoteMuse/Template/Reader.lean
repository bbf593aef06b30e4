import NoteMuse.Call.Reader
import NoteMuse.Template

/-!
Reading templates. `#name.step#` is a reference, `$space.function(…)` a call, whose closing `#` is
optional, and `[name:…]` an action. A backslash takes the next character literally, and whatever
begins like a call or an action without being one is literal text.
-/

namespace NoteMuse

open Text Decimal

inductive TemplateError where
  | unclosed (opening : Char)
  | emptyReference
  | invalidName (name : String)
  | unknownModifier (step : String)
  | malformedCall (cause : CallError)
  deriving DecidableEq, Repr

def TemplateError.message : TemplateError → String
  | unclosed c => "unclosed '" ++ c.toString ++ "'"
  | emptyReference => "empty symbol reference"
  | invalidName s => "invalid symbol name '" ++ s ++ "'"
  | unknownModifier s => "unknown modifier '" ++ s ++ "'"
  | malformedCall e => "malformed function call: " ++ e.message

/-! ### Names and references -/

/-- A character of the names of symbols. -/
def isSymbolChar (c : Char) : Bool := isAlphanumeric c || c = '_' || c = '-'

/-- A name that a symbol may have. -/
def isSymbolName (cs : List Char) : Bool := !cs.isEmpty && cs.all isSymbolChar

namespace Step

/-- The step that a word between dots denotes. A part is a number of 64 bits. -/
def read (word : List Char) : Except TemplateError Step :=
  if !word.isEmpty && word.all isDigit then
    match readNat? UInt64.size word with
    | some n => .ok (part n)
    | none => .error (.unknownModifier (String.ofList word))
  else
    match Modifier.ofName? (String.ofList word) with
    | some m => .ok (apply m)
    | none => .error (.unknownModifier (String.ofList word))

end Step

namespace Segment

/-- The reference written between two `#`. -/
def readReference (content : List Char) : Except TemplateError Segment :=
  if content.isEmpty then .error .emptyReference
  else
    match splitOn ['.'] content with
    | [] => .error .emptyReference
    | name :: words =>
      if isSymbolName name then
        (words.mapM Step.read).map (reference (String.ofList name))
      else .error (.invalidName (String.ofList name))

end Segment

/-! ### Actions -/

/-- The text up to the bracket that closes the open one, and what follows it; `depth` brackets have
been opened inside. A backslash hides the character after it. -/
def readBracketed (depth : Nat) : List Char → Option (List Char × List Char)
  | [] => none
  | '\\' :: [] => none
  | '\\' :: c :: rest => (readBracketed depth rest).map fun p => ('\\' :: c :: p.1, p.2)
  | c :: rest =>
    if c = ']' then
      match depth with
      | 0 => some ([], rest)
      | d + 1 => (readBracketed d rest).map fun p => (c :: p.1, p.2)
    else
      (readBracketed (if c = '[' then depth + 1 else depth) rest).map fun p => (c :: p.1, p.2)

theorem length_readBracketed {d : Nat} {cs : List Char} {p : List Char × List Char}
    (h : readBracketed d cs = some p) : p.1.length < cs.length ∧ p.2.length < cs.length := by
  fun_induction readBracketed d cs generalizing p with
  | case1 => cases h
  | case2 => cases h
  | case3 d c rest ih =>
    obtain ⟨q, hq, rfl⟩ := Option.map_eq_some_iff.mp h
    have := ih hq
    simp only [List.length_cons]
    omega
  | case4 => cases h; simp
  | case5 rest d _ _ ih =>
    obtain ⟨q, hq, rfl⟩ := Option.map_eq_some_iff.mp h
    have := ih hq
    simp only [List.length_cons]
    omega
  | case6 d c rest _ _ _ ih =>
    obtain ⟨q, hq, rfl⟩ := Option.map_eq_some_iff.mp h
    have := ih hq
    simp only [List.length_cons]
    omega

/-- An action after its opening bracket: the name, the text of the body, and what follows. -/
structure RawAction where
  name : List Char
  body : List Char
  after : List Char

/-- The action at the front, after its bracket; nothing when no name and colon follow it. -/
def scanAction (cs : List Char) : Except TemplateError (Option RawAction) :=
  let name := cs.takeWhile isSymbolChar
  match cs.dropWhile isSymbolChar with
  | ':' :: rest =>
    if name.isEmpty then .ok none
    else
      match readBracketed 0 rest with
      | some (body, after) => .ok (some ⟨name, body, after⟩)
      | none => .error (.unclosed '[')
  | _ => .ok none

theorem length_scanAction {cs : List Char} {a : RawAction} (h : scanAction cs = .ok (some a)) :
    a.body.length < cs.length ∧ a.after.length < cs.length := by
  simp only [scanAction] at h
  split at h
  · next rest hd =>
    split at h
    · cases h
    · split at h
      · next body after hb =>
        cases h
        have h₁ := length_readBracketed hb
        have h₂ := (List.dropWhile_suffix isSymbolChar (l := cs)).length_le
        rw [hd] at h₂
        exact ⟨by have := h₁.1; simp only [List.length_cons] at *; omega,
          by have := h₁.2; simp only [List.length_cons] at *; omega⟩
      · cases h
  · cases h

/-! ### Templates -/

def dropHash : List Char → List Char
  | '#' :: rest => rest
  | cs => cs

theorem length_dropHash_le (cs : List Char) : (dropHash cs).length ≤ cs.length := by
  unfold dropHash
  split <;> simp

namespace Template

def read (cs : List Char) : Except TemplateError Template :=
  match cs with
  | [] => .ok []
  | '\\' :: c :: rest => (read rest).map (pushChar c)
  | c :: rest =>
    if c = '#' then
      match hc : cutAt ['#'] rest with
      | none => .error (.unclosed '#')
      | some (content, after) =>
        have := length_lt_of_cutAt (by simp) hc
        match Segment.readReference content with
        | .error e => .error e
        | .ok s => (read after).map (s :: ·)
    else if c = '$' then
      match hc : Call.scan rest with
      | .error e => .error (.malformedCall e)
      | .ok (some (call, after)) =>
        have := Call.length_scan hc
        have := length_dropHash_le after
        (read (dropHash after)).map (.call call :: ·)
      | .ok none => (read rest).map (pushChar '$')
    else if c = '[' then
      match ha : scanAction rest with
      | .error e => .error e
      | .ok (some a) =>
        have := length_scanAction ha
        match read a.body with
        | .error e => .error e
        | .ok body => (read a.after).map (.action (String.ofList a.name) body :: ·)
      | .ok none => (read rest).map (pushChar '[')
    else (read rest).map (pushChar c)
termination_by cs.length

/-- The template that a text denotes. -/
def parse (s : String) : Except TemplateError Template := read s.toList

end Template

end NoteMuse
