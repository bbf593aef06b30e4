import NoteMuse.Decimal.Double
import NoteMuse.Format.Dialect
import NoteMuse.Text.Split

/-!
The small parts of RON: gaps and comments, names, quoted texts and numbers. Each reader takes the
characters of a text and gives back what is left.
-/

namespace NoteMuse.Format.Ron

open Text Decimal

/-! ### Gaps -/

def isGap (c : Char) : Bool := [' ', '\n', '\t', '\r'].contains c

/-- What follows the end of a block comment; comments inside it are closed first. -/
def skipBlock : Nat → List Char → Option (List Char)
  | _, [] => none
  | level, '/' :: '*' :: rest => skipBlock (level + 1) rest
  | 0, '*' :: '/' :: rest => some rest
  | level + 1, '*' :: '/' :: rest => skipBlock level rest
  | level, _ :: rest => skipBlock level rest

theorem length_skipBlock {level : Nat} {cs rest : List Char} (h : skipBlock level cs = some rest) :
    rest.length < cs.length := by
  fun_induction skipBlock level cs with
  | case1 => cases h
  | case2 level rest₁ ih =>
    have := ih h
    simp only [List.length_cons]
    omega
  | case3 => cases h; simp only [List.length_cons]; omega
  | case4 level rest₁ ih =>
    have := ih h
    simp only [List.length_cons]
    omega
  | case5 level c rest₁ _ _ _ ih =>
    have := ih h
    simp only [List.length_cons]
    omega

def skipLine (cs : List Char) : List Char := cs.dropWhile (· ≠ '\n')

theorem length_skipLine_le (cs : List Char) : (skipLine cs).length ≤ cs.length :=
  (List.dropWhile_suffix _).length_le

theorem length_of_dropGap {cs rest : List Char} {c : Char} (h : cs.dropWhile isGap = c :: rest) :
    rest.length < cs.length := by
  have := (List.dropWhile_suffix isGap (l := cs)).length_le
  rw [h] at this
  exact this

/-- What follows white space and comments. -/
def skipGap (cs : List Char) : Except FormatError (List Char) :=
  match hs : cs.dropWhile isGap with
  | '/' :: '/' :: rest =>
    have h₁ := length_of_dropGap hs
    have h₂ := length_skipLine_le rest
    have : (skipLine rest).length < cs.length := by
      simp only [List.length_cons] at h₁
      omega
    skipGap (skipLine rest)
  | '/' :: '*' :: rest =>
    match hb : skipBlock 0 rest with
    | none => fail "unclosed block comment"
    | some after =>
      have h₁ := length_of_dropGap hs
      have h₂ := length_skipBlock hb
      have : after.length < cs.length := by
        simp only [List.length_cons] at h₁
        omega
      skipGap after
  | '/' :: _ => fail "unexpected character"
  | rest => .ok rest
termination_by cs.length

/-- What follows the character and the gap after it, when the text begins with it. -/
def skipChar? (c : Char) : List Char → Except FormatError (Option (List Char))
  | d :: rest => if d = c then (skipGap rest).map some else .ok none
  | [] => .ok none

/-! ### Names -/

def isNameStart (c : Char) : Bool := c.isAlpha || c = '_'

def isNameChar (c : Char) : Bool := c.isAlphanum || c = '_'

/-- A character of a name that is marked by `r#`. -/
def isRawNameChar (c : Char) : Bool := isNameChar c || c = '.' || c = '+' || c = '-'

def readName? : List Char → Option (String × List Char)
  | 'r' :: '#' :: rest =>
    let name := rest.takeWhile isRawNameChar
    if name.isEmpty then none else some (String.ofList name, rest.dropWhile isRawNameChar)
  | 'r' :: '"' :: _ => none
  | c :: rest =>
    let name := (c :: rest).takeWhile isNameChar
    let after := (c :: rest).dropWhile isNameChar
    if isNameStart c && !(after.head?.map isRawNameChar).getD false then
      some (String.ofList name, after)
    else none
  | [] => none

/-- What follows the first of the words that stands at the front; what follows it cannot belong to a
name. -/
def dropWords? (words : List String) (cs : List Char) : Option (List Char) :=
  words.findSome? fun w =>
    (dropStart? w.toList cs).filter fun rest => !(rest.head?.map isNameChar).getD false

/-! ### Quoted texts -/

def hexNumber? (cs : List Char) : Option Nat :=
  cs.foldlM (fun n c => (hexValue? c).map fun d => 16 * n + d) 0

def charOf? (n : Nat) : Option Char :=
  if h : n.isValidChar then some (Char.ofNatAux n h) else none

/-- The character that an escape denotes, after its backslash. -/
def readEscape? : List Char → Option (Char × List Char)
  | 'x' :: a :: b :: rest => ((hexNumber? [a, b]).bind charOf?).map fun c => (c, rest)
  | 'u' :: '\x7b' :: rest =>
    let digits := rest.takeWhile (· ≠ '\x7d')
    if 1 ≤ digits.length && digits.length ≤ 6 then
      match rest.dropWhile (· ≠ '\x7d') with
      | _ :: after => ((hexNumber? digits).bind charOf?).map fun c => (c, after)
      | [] => none
    else none
  | c :: rest =>
    ([('\'', '\''), ('"', '"'), ('\\', '\\'), ('n', '\n'), ('r', '\r'), ('t', '\t'),
      ('0', '\x00')].lookup c).map fun d => (d, rest)
  | [] => none

/-- The text up to the closing double quote, after the opening one. -/
def readQuoted? (cs : List Char) : Option (List Char × List Char) :=
  match cs with
  | [] => none
  | '"' :: rest => some ([], rest)
  | '\\' :: rest =>
    match readEscape? rest with
    | none => none
    | some (c, after) =>
      if after.length < rest.length then
        (readQuoted? after).map fun p => (c :: p.1, p.2)
      else none
  | c :: rest => (readQuoted? rest).map fun p => (c :: p.1, p.2)
termination_by cs.length

/-- A text that ends with a double quote and as many `#` as stand before the opening one; it comes
after the `r` that marks it. -/
def readRaw? (cs : List Char) : Option (List Char × List Char) :=
  let hashes := cs.takeWhile (· = '#')
  match cs.dropWhile (· = '#') with
  | '"' :: rest => cutAt ('"' :: hashes) rest
  | _ => none

/-- What follows a single character between single quotes, after the opening one. A single quote
inside has to be escaped. -/
def skipQuotedChar? : List Char → Option (List Char)
  | '\\' :: rest =>
    match readEscape? rest with
    | some (_, '\'' :: after) => some after
    | _ => none
  | c :: '\'' :: rest => if c = '\'' then none else some rest
  | _ => none

/-- The text between double quotes at the front, or that of a raw one. -/
def readText? : List Char → Option (String × List Char)
  | '"' :: rest => (readQuoted? rest).map fun p => (String.ofList p.1, p.2)
  | 'r' :: rest => (readRaw? rest).map fun p => (String.ofList p.1, p.2)
  | _ => none

/-! ### Numbers -/

def isIntegerChar (c : Char) : Bool := (hexValue? c).isSome || c = '_'

def isFloatChar (c : Char) : Bool := isDigit c || ['e', 'E', '.', '+', '-', '_'].contains c

/-- The base that the beginning of a number shows, and what follows the mark. -/
def readBase : List Char → Nat × List Char
  | '0' :: 'x' :: rest => (16, rest)
  | '0' :: 'b' :: rest => (2, rest)
  | '0' :: 'o' :: rest => (8, rest)
  | cs => (10, cs)

/-- The number that digits denote in a base; underscores between them are passed over. -/
def digitsValue? (base : Nat) (cs : List Char) : Option Nat :=
  (cs.filter (· ≠ '_')).foldlM
    (fun n c => (hexValue? c).bind fun d => if d < base then some (base * n + d) else none) 0

def readInteger? (cs : List Char) : Option (Nat × List Char) :=
  let (base, cs) := readBase cs
  let digits := cs.takeWhile isIntegerChar
  if digits.isEmpty || digits.head? = some '_' then none
  else (digitsValue? base digits).map fun n => (n, cs.dropWhile isIntegerChar)

/-- The words for what is no finite number, which may have a sign. -/
def floatWords : List String := ["inf", "+inf", "-inf", "NaN", "+NaN", "-NaN"]

/-- What follows a number with a fraction or an exponent, or a word for such a number. -/
def skipFloat? (cs : List Char) : Option (List Char) :=
  (dropWords? floatWords cs).or
    (let token := cs.takeWhile isFloatChar
    if token.contains '_' || (Double.read? token).isNone then none
    else some (cs.dropWhile isFloatChar))

/-- What follows the number at the front. A run of characters that is longer as a float than as an
integer is a float, and so is an integer that does not fit a word, which is signed when a sign is
written. -/
def skipNumber? (cs : List Char) : Option (List Char) :=
  let signed := cs.head? = some '+' || cs.head? = some '-'
  let limit :=
    if cs.head? = some '-' then wordLimit / 2 + 1 else if signed then wordLimit / 2 else wordLimit
  let body := if signed then cs.drop 1 else cs
  if (body.takeWhile isIntegerChar).length < (body.takeWhile isFloatChar).length then skipFloat? cs
  else
    match readInteger? body with
    | some (n, rest) => if n < limit then some rest else skipFloat? cs
    | none => skipFloat? cs

end NoteMuse.Format.Ron
