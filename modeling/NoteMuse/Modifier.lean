import NoteMuse.Fault
import NoteMuse.Inflection.Article
import NoteMuse.Inflection.Past
import NoteMuse.Inflection.Plural

/-!
Modifiers: transforms of the text of a symbol, written after its name. The plural changes the last
word of a phrase and the past tense the first one.
-/

namespace NoteMuse

open Text Inflection

/-- A transform of text. -/
inductive Modifier where
  | capitalize
  | capitalizeAll
  | pluralize
  | pastTense
  | article
  deriving DecidableEq, Repr

namespace Modifier

def all : List Modifier := [capitalize, capitalizeAll, pluralize, pastTense, article]

/-- The name in a template. -/
def name : Modifier → String
  | capitalize => "capitalize"
  | capitalizeAll => "capitalizeAll"
  | pluralize => "s"
  | pastTense => "ed"
  | article => "a"

def ofName? (s : String) : Option Modifier := all.find? fun m => m.name = s

@[simp] theorem ofName?_name (m : Modifier) : ofName? m.name = some m := by
  cases m <;> decide

/-! ### Phrases -/

/-- What stands before the last white space, that character, and what stands after it. -/
def splitLastBlank : List Char → Option (List Char × Char × List Char)
  | [] => none
  | c :: cs =>
    match splitLastBlank cs with
    | some (before, b, after) => some (c :: before, b, after)
    | none => if isBlank c then some ([], c, cs) else none

/-- Applies `f` to the last word. The cut is made one byte after the beginning of the last white
space, so that white space has to be one byte long. -/
def onLastWord (f : List Char → List Char) (cs : List Char) : Except Fault (List Char) :=
  match splitLastBlank cs with
  | none => .ok (f cs)
  | some (before, b, after) =>
    if b.utf8Size = 1 then .ok (before ++ b :: f after)
    else .error (.cutInside (String.ofList before).utf8ByteSize b)

def onFirstWord (f : List Char → List Char) (cs : List Char) : List Char :=
  f (cs.takeWhile fun c => !isBlank c) ++ cs.dropWhile fun c => !isBlank c

/-! ### Application -/

def run : Modifier → List Char → Except Fault (List Char)
  | capitalize, cs => .ok (Inflection.capitalize cs)
  | capitalizeAll, cs => .ok (Inflection.capitalizeAll cs)
  | pluralize, cs => onLastWord Inflection.pluralize cs
  | pastTense, cs => .ok (onFirstWord Inflection.pastTense cs)
  | article, cs => .ok (withArticle cs)

def apply (m : Modifier) (s : String) : Except Fault String :=
  (m.run s.toList).map String.ofList

/-- Applies modifiers from left to right. -/
def applyChain (ms : List Modifier) (s : String) : Except Fault String :=
  ms.foldlM (fun t m => m.apply t) s

end Modifier

end NoteMuse
