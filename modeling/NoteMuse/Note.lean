import NoteMuse.Note.Link
import NoteMuse.Text.Alphanumeric
import NoteMuse.Text.CaseMap

/-!
Notes, and the words by which they are compared.
-/

namespace NoteMuse

open Text

/-- A note of a vault. Its links are titles, in the order of the text; of the times of changes only
the order counts. When a note was made is left out: nothing asks for it. -/
structure Note where
  title : String
  path : String
  content : String
  links : List String
  tags : List String
  modified : Int
  deriving DecidableEq, Repr

namespace Note

/-- A note without links and tags, from the beginning of time. -/
def new (title content : String) : Note :=
  { title, path := title ++ ".md", content, links := [], tags := [], modified := 0 }

def hasTag (n : Note) (tag : String) : Bool := n.tags.contains tag

/-- A run of letters and digits takes part in comparisons when it has more than two bytes. -/
def countsAsWord (run : List Char) : Bool := 2 < (String.ofList run).utf8ByteSize

/-- The words of the content in lower case, ascending and without repetitions. -/
def words (n : Note) : List String :=
  sortedDistinct
    (((runs isAlphanumeric n.content.toList).filter countsAsWord).map
      fun run => String.ofList (lower run))

/-- The tag that a word of a text carries: what follows its `#`, less the punctuation at its end, if
it begins with a letter. -/
def tagOf? (word : List Char) : Option (List Char) :=
  match word with
  | '#' :: rest =>
    let tag := (rest.reverse.dropWhile fun c => !(isAlphanumeric c || c = '-' || c = '_')).reverse
    if (tag.head?.map isAlphabetic).getD false then some tag else none
  | _ => none

def tagsIn (text : String) : List String :=
  sortedDistinct
    (((runs (fun c => !isBlank c) text.toList).filterMap tagOf?).map String.ofList)

def ofText (title path content : String) (modified : Int) : Note :=
  { title, path, content, modified, links := Link.titles content, tags := tagsIn content }

end Note

end NoteMuse
