import NoteMuse.Text.Blank
import NoteMuse.Text.CaseMap

/-!
Capitals at the beginning of words.
-/

namespace NoteMuse.Inflection

open Text

/-- The text with a capital first character. -/
def capitalize : List Char → List Char
  | [] => []
  | c :: rest => upperOf c ++ rest

/-- Capitalizes the first character of every word; `fresh` says that a word may begin here. -/
def capitalizeFrom (fresh : Bool) : List Char → List Char
  | [] => []
  | c :: rest =>
    if isBlank c then c :: capitalizeFrom true rest
    else (if fresh then upperOf c else [c]) ++ capitalizeFrom false rest

def capitalizeAll (cs : List Char) : List Char := capitalizeFrom true cs

/-- The first character is a capital: lower case would change it. -/
def startsUpper : List Char → Bool
  | [] => false
  | c :: _ => lowerOf c != [c]

/-- The replacement, capitalized when the word it replaces is. -/
def matchCase (word replacement : List Char) : List Char :=
  if startsUpper word then capitalize replacement else replacement

end NoteMuse.Inflection
