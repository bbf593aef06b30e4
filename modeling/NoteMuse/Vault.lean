import NoteMuse.Decimal.Binary
import NoteMuse.Note
import Std.Data.ExtTreeMap

/-!
A vault: notes by title, and the questions that geists ask about them. Every list that answers one
has a fixed order, so that draws from it can be repeated.
-/

namespace NoteMuse

open Decimal

/-- A note with its words, which are computed once. -/
structure Indexed where
  note : Note
  words : List String
  words_eq : words = note.words

def Indexed.ofNote (n : Note) : Indexed := ⟨n, n.words, rfl⟩

/-! ### The index of links -/

/-- The titles of the notes that link to a title, by this title. -/
abbrev LinkIndex := Std.ExtTreeMap String (List String)

namespace LinkIndex

def sources (index : LinkIndex) (title : String) : List String := index.getD title []

/-- The index with one more source of links to a title, unless it is among them. -/
def addSource (source : String) (index : LinkIndex) (target : String) : LinkIndex :=
  if source ∈ index.sources target then index
  else index.insert target (index.sources target ++ [source])

/-- The index with the links that lead from one of the notes to others. -/
def addNote (notes : Std.ExtTreeMap String Indexed) (index : LinkIndex) (title : String)
    (x : Indexed) : LinkIndex :=
  (x.note.links.filter fun t => notes.contains t && t ≠ title).foldl (addSource title) index

/-- The links between the notes; the sources of the links to each title ascend. -/
def ofNotes (notes : Std.ExtTreeMap String Indexed) : LinkIndex :=
  (notes.foldl (addNote notes) ∅).map fun _ sources => sources.mergeSort fun a b => decide (a ≤ b)

end LinkIndex

/-! ### Vaults -/

/-- Notes by title, with the links between them, which are gathered once. -/
structure Vault where
  notes : Std.ExtTreeMap String Indexed
  index : LinkIndex
  index_eq : index = .ofNotes notes

namespace Vault

/-- The vault of the notes; of several notes with one title the last stays. -/
def ofNotes (ns : List Note) : Vault :=
  let notes := ns.foldl (fun m n => m.insert n.title (Indexed.ofNote n)) ∅
  ⟨notes, .ofNotes notes, rfl⟩

/-- All titles, ascending. -/
def titles (v : Vault) : List String := v.notes.keys

def note? (v : Vault) (title : String) : Option Note := v.notes[title]?.map Indexed.note

def noteCount (v : Vault) : Nat := v.notes.size

/-! ### Links -/

/-- The titles of other notes in the vault that this note links to, in the order of the text. -/
def outgoing (v : Vault) (title : String) : List String :=
  match v.note? title with
  | none => []
  | some n => distinct (n.links.filter fun t => v.notes.contains t && t ≠ title)

/-- All links between two notes of the vault, by the title they lead from. -/
def edges (v : Vault) : List (String × String) :=
  v.titles.flatMap fun t => (v.outgoing t).map fun u => (t, u)

/-- The titles of the notes that link to this one, ascending. -/
def backlinks (v : Vault) (title : String) : List String := v.index.sources title

/-- The notes without links in either direction. -/
def orphans (v : Vault) : List String :=
  v.titles.filter fun t => (v.outgoing t).isEmpty && (v.backlinks t).isEmpty

/-! ### Rankings -/

/-- The first `k` titles by rank, a smaller title first where ranks are equal. -/
def rank {α : Type} (before : α → α → Bool) (k : Nat) (xs : List (α × String)) : List String :=
  ((xs.mergeSort fun a b => before a.1 b.1 || (!before b.1 a.1 && decide (a.2 ≤ b.2))).take k).map
    Prod.snd

/-- The titles that other notes link to, with the number of these notes. -/
def counted (v : Vault) : List (Nat × String) :=
  (v.titles.map fun t => ((v.backlinks t).length, t)).filter fun p => 0 < p.1

/-- Up to `k` notes with the most notes linking to them. -/
def hubs (v : Vault) (k : Nat) : List String := rank (fun m n => decide (n < m)) k v.counted

def dated (v : Vault) : List (Int × String) :=
  v.notes.toList.map fun p => (p.2.note.modified, p.1)

/-- Up to `k` notes that were changed last. -/
def recent (v : Vault) (k : Nat) : List String := rank (fun s t => decide (t < s)) k v.dated

/-- Up to `k` notes that have not been changed for the longest time. -/
def oldest (v : Vault) (k : Nat) : List String := rank (fun s t => decide (s < t)) k v.dated

def tagged (v : Vault) (tag : String) : List String :=
  (v.notes.toList.filter fun p => p.2.note.hasTag tag).map Prod.fst

/-! ### Similarity -/

def commonCount : List String → List String → Nat
  | [], _ => 0
  | _, [] => 0
  | x :: xs, y :: ys =>
    if x = y then commonCount xs ys + 1
    else if x < y then commonCount xs (y :: ys)
    else commonCount (x :: xs) ys
termination_by xs ys => xs.length + ys.length

/-- The share of common words among all words of two ascending lists. Both numbers are rounded before they are
divided, which only numbers of more than 24 bits show. -/
def overlap (xs ys : List String) : Single :=
  let common := commonCount xs ys
  let all := xs.length + ys.length - common
  Single.ofRatio (BinaryFormat.single.wholeNear common) (BinaryFormat.single.wholeNear all)

/-- How similar two notes are; a title that is not in the vault is like nothing. -/
def similarity (v : Vault) (a b : String) : Single :=
  match v.notes[a]?, v.notes[b]? with
  | some x, some y => overlap x.words y.words
  | _, _ => ⟨0⟩

/-- Up to `k` other notes that share words with this one, the most similar first. -/
def neighbours (v : Vault) (title : String) (k : Nat) : List String :=
  match v.notes[title]? with
  | none => []
  | some x =>
    rank (fun s t : Single => decide (t < s)) k
      (((v.notes.toList.filter fun p => p.1 ≠ title).map fun p =>
        (overlap x.words p.2.words, p.1)).filter fun p => (⟨0⟩ : Single) < p.1)

end Vault

end NoteMuse
