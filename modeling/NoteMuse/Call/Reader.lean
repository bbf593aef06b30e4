import NoteMuse.Call
import NoteMuse.Text.Alphanumeric
import NoteMuse.Text.Split

/-!
Reading calls. A text that is not shaped like a call is no error, since a dollar sign may stand for
itself; a call with a malformed argument list is one.
-/

namespace NoteMuse

open Text Decimal

/-- Why a text is no call. -/
inductive CallError where
  | unclosedList
  | unterminatedText
  | emptyArgument
  | nestedExpression (token : String)
  | unexpected (c : Char)
  | noDollar (marker : String)
  | trailingText (marker : String)
  | notACall (marker : String)
  deriving DecidableEq, Repr

def CallError.message : CallError → String
  | unclosedList => "unclosed argument list"
  | unterminatedText => "unterminated string argument"
  | emptyArgument => "empty argument"
  | nestedExpression t => "nested expressions are not allowed: '" ++ t ++ "'"
  | unexpected c => "unexpected '" ++ c.toString ++ "' in argument list"
  | noDollar m => "'" ++ m ++ "' does not start with '$'"
  | trailingText m => "trailing text after call in '" ++ m ++ "'"
  | notACall m => "'" ++ m ++ "' is not a function call"

/-! ### Arguments -/

namespace Arg

/-- What a bare token denotes: a whole number of 64 bits, else a number in decimal or scientific
notation, else itself. -/
def ofToken (token : List Char) : Arg :=
  match readInt64? token with
  | some n => int n
  | none =>
    if token.all fun c => isDigit c || "+-.eE".toList.contains c then
      match Double.read? token with
      | some x => float x
      | none => text (String.ofList token)
    else text (String.ofList token)

/-- The text up to the closing quote, and what follows the quote. A backslash takes the character
after it as it is. -/
def readQuoted (quote : Char) : List Char → Option (List Char × List Char)
  | [] => none
  | '\\' :: c :: rest => (readQuoted quote rest).map fun p => (c :: p.1, p.2)
  | c :: rest =>
    if c = quote then some ([], rest)
    else (readQuoted quote rest).map fun p => (c :: p.1, p.2)

theorem length_readQuoted {q : Char} {cs : List Char} {p : List Char × List Char}
    (h : readQuoted q cs = some p) : p.2.length < cs.length := by
  fun_induction readQuoted q cs generalizing p with
  | case1 => simp at h
  | case2 c rest ih =>
    obtain ⟨p', h', rfl⟩ := Option.map_eq_some_iff.mp h
    have := ih h'
    simp only [List.length_cons]
    omega
  | case3 => obtain rfl := Option.some.inj h; simp
  | case4 c rest _ _ ih =>
    obtain ⟨p', h', rfl⟩ := Option.map_eq_some_iff.mp h
    have := ih h'
    simp only [List.length_cons]
    omega

/-- A character of a bare token: it ends neither the argument nor the list. -/
def isTokenChar (c : Char) : Bool := c ≠ ',' && c ≠ ')'

/-- The bare token at the front, without the white space around it. -/
def readToken (cs : List Char) : Except CallError Arg :=
  let token := trim (cs.takeWhile isTokenChar)
  if token.isEmpty then .error .emptyArgument
  else if token.any fun c => ['#', '$', '(', '['].contains c then
    .error (.nestedExpression (String.ofList token))
  else .ok (ofToken token)

/-- The argument at the front, and what follows it. -/
def read : List Char → Except CallError (Arg × List Char)
  | [] => .error .unclosedList
  | c :: rest =>
    if c = '"' || c = '\'' then
      match readQuoted c rest with
      | some (s, rest) => .ok (text (String.ofList s), rest)
      | none => .error .unterminatedText
    else (readToken (c :: rest)).map fun a => (a, (c :: rest).dropWhile isTokenChar)

theorem length_read_le {cs : List Char} {p : Arg × List Char} (h : read cs = .ok p) :
    p.2.length ≤ cs.length := by
  cases cs with
  | nil => simp [read] at h
  | cons c rest =>
    simp only [read] at h
    split at h
    · split at h
      · next s r hq =>
        have := length_readQuoted hq
        cases h
        simp only [List.length_cons] at *
        omega
      · cases h
    · cases ht : readToken (c :: rest) with
      | error e => rw [ht] at h; cases h
      | ok a =>
        rw [ht] at h
        cases h
        exact (List.dropWhile_suffix _).length_le

end Arg

/-! ### Calls -/

namespace Call

/-- A character of the two parts of a function's name. -/
def isIdentChar (c : Char) : Bool := isAlphanumeric c || c = '_'

/-- The arguments after the opening parenthesis, and what follows the closing one. The list may
close at once only when it is empty (`first`). -/
def readArgs (first : Bool) (cs : List Char) : Except CallError (List Arg × List Char) :=
  match hs : trimLeft cs with
  | [] => .error .unclosedList
  | c :: rest =>
    if first && c = ')' then .ok ([], rest)
    else
      match ha : Arg.read (c :: rest) with
      | .error e => .error e
      | .ok (a, after) =>
        match ht : trimLeft after with
        | [] => .error .unclosedList
        | d :: rest =>
          if d = ',' then
            have : rest.length < cs.length := by
              have := length_lt_of_trimLeft hs
              have := length_lt_of_trimLeft ht
              have := Arg.length_read_le ha
              simp only [List.length_cons] at this
              omega
            match readArgs false rest with
            | .error e => .error e
            | .ok (as, rest) => .ok (a :: as, rest)
          else if d = ')' then .ok ([a], rest)
          else .error (.unexpected d)
termination_by cs.length

theorem length_readArgs {first : Bool} {cs : List Char} {p : List Arg × List Char}
    (h : readArgs first cs = .ok p) : p.2.length < cs.length := by
  fun_induction readArgs first cs generalizing p with
  | case1 => cases h
  | case2 _ _ _ _ hs => cases h; exact length_lt_of_trimLeft hs
  | case3 => cases h
  | case4 => cases h
  | case5 => cases h
  | case6 first cs c rest hs _ a after ha rest₁ as rest₂ hr ht hlt ih =>
    cases h
    have := ih hr
    exact Nat.lt_trans this hlt
  | case7 first cs c rest hs _ a after ha rest₁ ht _ =>
    cases h
    have := length_lt_of_trimLeft hs
    have := length_lt_of_trimLeft ht
    have := Arg.length_read_le ha
    simp only [List.length_cons] at this ⊢
    omega
  | case8 => cases h

/-- The call at the front, after its dollar sign, and what follows it; nothing when the text is not
shaped like a call. -/
def scan (cs : List Char) : Except CallError (Option (Call × List Char)) :=
  let space := cs.takeWhile isIdentChar
  match cs.dropWhile isIdentChar with
  | '.' :: cs =>
    let function := cs.takeWhile isIdentChar
    match cs.dropWhile isIdentChar with
    | '(' :: cs =>
      if space.isEmpty || function.isEmpty then .ok none
      else
        (readArgs true cs).map fun p =>
          some (⟨String.ofList space, String.ofList function, p.1⟩, p.2)
    | _ => .ok none
  | _ => .ok none

theorem length_scan {cs : List Char} {c : Call} {after : List Char}
    (h : scan cs = .ok (some (c, after))) : after.length < cs.length := by
  simp only [scan] at h
  split at h
  · next cs₁ h₁ =>
    split at h
    · next cs₂ h₂ =>
      split at h
      · cases h
      · cases hr : readArgs true cs₂ with
        | error e => rw [hr] at h; cases h
        | ok p =>
          rw [hr] at h
          cases h
          have := length_readArgs hr
          have a₁ := (List.dropWhile_suffix isIdentChar (l := cs)).length_le
          have a₂ := (List.dropWhile_suffix isIdentChar (l := cs₁)).length_le
          rw [h₁] at a₁
          rw [h₂] at a₂
          simp only [List.length_cons] at a₁ a₂
          omega
    · cases h
  · cases h

/-- Reads a text that is one call and nothing else, white space around it apart. -/
def parse (marker : String) : Except CallError Call :=
  match trim marker.toList with
  | '$' :: cs =>
    match scan cs with
    | .error e => .error e
    | .ok (some (c, [])) => .ok c
    | .ok (some _) => .error (.trailingText marker)
    | .ok none => .error (.notACall marker)
  | _ => .error (.noDollar marker)

end Call

end NoteMuse
