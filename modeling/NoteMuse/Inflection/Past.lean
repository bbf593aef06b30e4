import NoteMuse.Inflection.Capital
import NoteMuse.Inflection.Letter
import NoteMuse.Text.Split

/-!
The past tense of an English verb: irregular verbs, then the endings.
-/

namespace NoteMuse.Inflection

open Text

/-- Verbs whose past tense is not formed with `ed`. -/
def irregularPasts : List (String × String) :=
  [("be", "was"), ("go", "went"), ("have", "had"), ("do", "did"), ("make", "made"),
   ("take", "took"), ("see", "saw"), ("come", "came"), ("get", "got"), ("give", "gave"),
   ("find", "found"), ("think", "thought"), ("know", "knew"), ("write", "wrote"),
   ("read", "read"), ("run", "ran"), ("begin", "began"), ("forget", "forgot"), ("leave", "left"),
   ("feel", "felt"), ("bring", "brought"), ("build", "built"), ("keep", "kept"), ("lose", "lost"),
   ("meet", "met"), ("say", "said"), ("tell", "told"), ("become", "became"), ("grow", "grew"),
   ("draw", "drew"), ("break", "broke"), ("speak", "spoke"), ("choose", "chose"),
   ("fall", "fell"), ("hold", "held"), ("stand", "stood"), ("understand", "understood"),
   ("buy", "bought"), ("teach", "taught"), ("catch", "caught"), ("sleep", "slept"),
   ("eat", "ate"), ("drink", "drank"), ("sing", "sang"), ("swim", "swam"), ("fly", "flew"),
   ("put", "put"), ("set", "set"), ("cut", "cut"), ("let", "let")]

/-- A short verb that ends in consonant, vowel and consonant, such as `stop`: its last letter is
doubled. A word with two groups of vowels, such as `visit`, is not short. -/
def doublesLast (low : List Char) : Bool :=
  match low.reverse with
  | c :: b :: a :: _ =>
    !isVowel a && isVowel b && !isVowel c && !(['w', 'x', 'y'].contains c) &&
      (runs isVowel low).length == 1
  | _ => false

/-- The past tense by the ending alone, `low` being the lower case of the word. -/
def pastByEnding (word low : List Char) : List Char :=
  if low.getLast? = some 'e' then word ++ ['d']
  else
    match (dropEnd? ['y'] word).filter endsWithConsonant with
    | some stem => stem ++ "ied".toList
    | none =>
      if doublesLast low then word ++ word.getLast?.toList ++ "ed".toList
      else word ++ "ed".toList

/-- The past tense of a single verb, with the capital of the verb. -/
def pastTense (word : List Char) : List Char :=
  if word.isEmpty then []
  else
    let low := lower word
    match irregularPasts.lookup (String.ofList low) with
    | some past => matchCase word past.toList
    | none => pastByEnding word low

end NoteMuse.Inflection
