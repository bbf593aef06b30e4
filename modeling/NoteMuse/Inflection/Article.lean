import NoteMuse.Text.CaseMap

/-!
The indefinite article, chosen by the first sound of the text as its spelling suggests it.
-/

namespace NoteMuse.Inflection

open Text

/-- Beginnings with a consonant letter and a vowel sound. -/
def silentStarts : List String :=
  ["hour", "honest", "honor", "honour", "heir"]

/-- Beginnings with a vowel letter and a consonant sound. -/
def glideStarts : List String :=
  ["one", "once", "uni", "use", "usu", "uti", "ure", "eu", "ewe", "ubiq"]

/-- The text, in lower case, begins with the sound of a vowel. -/
def soundsVowel (low : List Char) : Bool :=
  if silentStarts.any fun p => p.toList.isPrefixOf low then true
  else if glideStarts.any fun p => p.toList.isPrefixOf low then false
  else
    match low with
    | [] => false
    | c :: _ => "aeiou".toList.contains c

def withArticle (cs : List Char) : List Char :=
  if cs.isEmpty then []
  else (if soundsVowel (lower cs) then "an ".toList else "a ".toList) ++ cs

end NoteMuse.Inflection
