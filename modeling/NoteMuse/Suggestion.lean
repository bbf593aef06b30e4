import NoteMuse.Format.Dialect
import NoteMuse.Note.Link

/-!
Suggestions, and the drafts that geists hand in. A draft without text is dropped; the notes of a
suggestion are those its draft names, or else those its text links to.
-/

namespace NoteMuse

open Format Text

/-- What a geist hands in. -/
structure Draft where
  text : String
  /-- Left empty, the links in the text stand in for it. -/
  notes : List String
  title : Option String
  deriving DecidableEq, Repr

/-- A finished suggestion, with the id of the geist that made it. -/
structure Suggestion where
  text : String
  /-- Titles of notes, each named once. -/
  notes : List String
  geist : String
  title : Option String
  deriving DecidableEq, Repr

namespace Draft

def ofText (text : String) : Draft := ⟨text, [], none⟩

/-- A draft as a document; all but the text may be left out. -/
def decoder : Decoder Draft := fun d =>
  d.structured "SuggestionDraft" (ofText "") [
    .required "text" d.text fun text s => { s with text },
    .optional "referenced_notes" (d.list d.text) fun notes s => { s with notes },
    .optional "title" (d.optional d.text) fun title s => { s with title }]

end Draft

namespace Suggestion

/-- The suggestion that a text makes, unless it is blank. -/
def ofText? (geist text : String) : Option Suggestion :=
  let text := trimmed text
  if text.isEmpty then none else some ⟨text, Link.titles text, geist, none⟩

/-- The suggestion that a draft makes, unless its text is blank. A blank title is no title. -/
def ofDraft? (geist : String) (d : Draft) : Option Suggestion :=
  let text := trimmed d.text
  if text.isEmpty then none
  else some {
    text
    notes := if d.notes.isEmpty then Link.titles text else distinct d.notes
    geist
    title := d.title.filter fun t => !isBlankText t }

def ofTexts (geist : String) (texts : List String) : List Suggestion :=
  texts.filterMap (ofText? geist)

def ofDrafts (geist : String) (drafts : List Draft) : List Suggestion :=
  drafts.filterMap (ofDraft? geist)

end Suggestion

end NoteMuse
