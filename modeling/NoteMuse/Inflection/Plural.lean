import NoteMuse.Inflection.Capital
import NoteMuse.Inflection.Letter
import NoteMuse.Text.Split

/-!
The plural of an English noun: words without a plural, irregular words, then the endings.
-/

namespace NoteMuse.Inflection

open Text

/-- Nouns whose plural has another stem or ending. -/
def irregularPlurals : List (String × String) :=
  [("person", "people"), ("man", "men"), ("woman", "women"), ("child", "children"),
   ("mouse", "mice"), ("goose", "geese"), ("tooth", "teeth"), ("foot", "feet"), ("ox", "oxen"),
   ("datum", "data"), ("criterion", "criteria"), ("phenomenon", "phenomena"),
   ("analysis", "analyses"), ("thesis", "theses"), ("leaf", "leaves"), ("life", "lives"),
   ("knife", "knives"), ("wife", "wives"), ("half", "halves"), ("self", "selves")]

/-- Nouns that are their own plural. -/
def uncountables : List String :=
  ["sheep", "fish", "deer", "series", "species", "information", "news"]

def sibilantEndings : List String := ["s", "x", "z", "ch", "sh"]

/-- The plural by the ending alone. `y` is looked for as a small letter, the sibilants in `low`,
the lower case of the word. -/
def pluralByEnding (word low : List Char) : List Char :=
  match (dropEnd? ['y'] word).filter endsWithConsonant with
  | some stem => stem ++ "ies".toList
  | none =>
    if sibilantEndings.any fun e => e.toList.isSuffixOf low then word ++ "es".toList
    else word ++ "s".toList

/-- The plural of a single word, with the capital of the word. -/
def pluralize (word : List Char) : List Char :=
  if word.isEmpty then []
  else
    let low := lower word
    if uncountables.contains (String.ofList low) then word
    else
      match irregularPlurals.lookup (String.ofList low) with
      | some plural => matchCase word plural.toList
      | none => pluralByEnding word low

end NoteMuse.Inflection
