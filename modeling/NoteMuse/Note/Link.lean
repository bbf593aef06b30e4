import NoteMuse.Distinct
import NoteMuse.Text.Split

/-!
Links between notes: the title of a note between double brackets, with an optional alias after a bar.
-/

namespace NoteMuse.Link

open Text

def wrap (title : String) : String := "[[" ++ title ++ "]]"

/-- The text between the brackets of a link, or the text itself, without white space around it. -/
def unwrap (text : String) : String :=
  let cs := trim text.toList
  match (dropStart? ['[', '['] cs).bind (dropEnd? [']', ']']) with
  | some inner => String.ofList inner
  | none => String.ofList cs

/-- What stands between the double brackets of a text, from left to right. The last pair of opening
brackets counts only when it is closed. -/
def contents (cs : List Char) : List (List Char) :=
  match h₁ : cutAt ['[', '['] cs with
  | none => []
  | some (_, after) =>
    match h₂ : cutAt [']', ']'] after with
    | none => []
    | some (inner, rest) =>
      have := length_lt_of_cutAt (by simp) h₁
      have := length_lt_of_cutAt (by simp) h₂
      inner :: contents rest
termination_by cs.length

/-- The title that a link names: what stands before the bar. -/
def titleOf (inner : List Char) : List Char := trim (inner.takeWhile (· ≠ '|'))

/-- The titles that a text links to, in order of first appearance. -/
def titles (text : String) : List String :=
  distinct (((contents text.toList).map titleOf).filter (fun t => !t.isEmpty) |>.map String.ofList)

end NoteMuse.Link
