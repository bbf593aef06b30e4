import NoteMuse.Text.Alphabetic

/-!
Vowels and consonants, as spelling counts them.
-/

namespace NoteMuse.Inflection

def isVowel (c : Char) : Bool := "aeiouAEIOU".toList.contains c

/-- The last character is a letter and no vowel. -/
def endsWithConsonant (cs : List Char) : Bool :=
  match cs.getLast? with
  | some c => Text.isAlphabetic c && !isVowel c
  | none => false

end NoteMuse.Inflection
