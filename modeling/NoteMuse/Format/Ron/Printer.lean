import NoteMuse.Decimal.Digits
import NoteMuse.Format.Ron.Value
import NoteMuse.Text.Quoted

/-!
Writing RON values over several lines: an element or a field to a line, four spaces for each level,
and a comma after every one.
-/

namespace NoteMuse.Format.Ron

/-- The space before a line at a level. -/
def indent (level : Nat) : String := String.ofList (List.replicate (4 * level) ' ')

/-- A text in double quotes; single quotes inside are escaped too. -/
def quote (s : String) : String := Text.quotedWith ['"', '\'', '\\'] s

mutual

/-- The value as text; the line it begins on is at the given level. -/
def Value.pretty (level : Nat) : Value → String
  | .truth b => if b then "true" else "false"
  | .natural n => String.ofList (Decimal.digits n)
  | .text s => quote s
  | .none => "None"
  | .some v => "Some(" ++ v.pretty level ++ ")"
  | .list [] => "[]"
  | .list vs => "[\n" ++ prettyElements (level + 1) vs ++ indent level ++ "]"
  | .tuple vs => "(" ++ prettyRow level vs ++ ")"
  | .record [] => "()"
  | .record fields => "(\n" ++ prettyFields (level + 1) fields ++ indent level ++ ")"

def prettyElements (level : Nat) : List Value → String
  | [] => ""
  | v :: vs => indent level ++ v.pretty level ++ ",\n" ++ prettyElements level vs

def prettyFields (level : Nat) : List (String × Value) → String
  | [] => ""
  | (name, v) :: rest =>
    indent level ++ name ++ ": " ++ v.pretty level ++ ",\n" ++ prettyFields level rest

def prettyRow (level : Nat) : List Value → String
  | [] => ""
  | [v] => v.pretty level
  | v :: vs => v.pretty level ++ ", " ++ prettyRow level vs

end

end NoteMuse.Format.Ron
