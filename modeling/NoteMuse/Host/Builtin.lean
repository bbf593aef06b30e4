import NoteMuse.Host.Functions
import NoteMuse.Random.Sample

/-!
The functions that every grammar may call: draws from the notes of the vault. Titles come back as
links, so that a suggestion shows which notes it is about.
-/

namespace NoteMuse.Host.Builtin

open NoteMuse.Random

/-- How many notes `hub`, `recent_note` and `old_note` draw from. -/
def poolSize : Nat := 5

/-- How many notes `neighbour` and `similar_pair` draw from. -/
def neighbourPool : Nat := 3

/-! ### Arguments -/

/-- The first argument as a count, 1 when there is none. -/
def countArg : List Arg → Except String Nat
  | [] => .ok 1
  | a :: _ =>
    match a.asCount? with
    | some n => .ok n
    | none => .error ("expected a count, got " ++ a.display)

def textArg? (args : List Arg) : Option String := args.head?.bind Arg.asText?

/-- A drawn title of the pool, as a link; `what` names the pool when it is empty. -/
def pick (pool : List String) (what : String) : ExceptT Failure Draw Value := do
  match ← (choose? pool : Draw (Option String)) with
  | some t => return .scalar (Link.wrap t)
  | none => refuse ("vault has no " ++ what)

/-! ### The functions -/

def randomNote : Handler := fun v _ => pick v.titles "notes"

/-- Several different notes, as many as the argument says. -/
def sampleNotes : Handler := fun v args =>
  match countArg args with
  | .error m => refuse m
  | .ok k =>
    if v.titles.isEmpty then refuse "vault has no notes"
    else do
      let ts ← (sample k v.titles : Draw (List String))
      return .cluster (ts.map Link.wrap)

def orphan : Handler := fun v _ => pick v.orphans "orphans"

def hub : Handler := fun v _ => pick (v.hubs poolSize) "linked-to notes"

def recentNote : Handler := fun v _ => pick (v.recent poolSize) "notes"

def oldNote : Handler := fun v _ => pick (v.oldest poolSize) "notes"

/-- A note with a tag, which may be written with its `#`. -/
def taggedNote : Handler := fun v args =>
  match textArg? args with
  | none => refuse "expected a tag argument"
  | some tag =>
    pick (v.tagged (String.ofList (tag.toList.dropWhile (· = '#'))))
      ("notes tagged '" ++ tag ++ "'")

/-- A note that shares words with the one whose title, or link, is given. -/
def neighbour : Handler := fun v args =>
  match (textArg? args).map Link.unwrap with
  | none => refuse "expected a note title argument"
  | some title =>
    if (v.note? title).isNone then refuse ("no note titled '" ++ title ++ "'")
    else pick (v.neighbours title neighbourPool) ("notes similar to '" ++ title ++ "'")

/-- A note and one that it links to. -/
def linkedPair : Handler := fun v _ => do
  match ← (choose? v.edges : Draw (Option (String × String))) with
  | some (source, target) => return .cluster [Link.wrap source, Link.wrap target]
  | none => refuse "vault has no links"

/-- The closest neighbours of a note that it does not link to. -/
def unlinkedNeighbours (v : Vault) (title : String) : List String :=
  let linked := v.outgoing title
  (v.neighbours title neighbourPool).filter fun t => !linked.contains t

/-- The first title that has such neighbours, and one of them. -/
def firstPair? (v : Vault) : List String → Draw (Option (String × String))
  | [] => pure none
  | t :: rest =>
    let pool := unlinkedNeighbours v t
    if pool.isEmpty then firstPair? v rest
    else do
      let i ← below64 pool.length
      return pool[i]?.map fun u => (t, u)

/-- A note and a similar one that it does not link to yet. -/
def similarPair : Handler := fun v _ => do
  let titles ← (shuffle v.titles : Draw (List String))
  match ← (firstPair? v titles : Draw (Option (String × String))) with
  | some (t, u) => return .cluster [Link.wrap t, Link.wrap u]
  | none => refuse "vault has no similar unlinked notes"

def noteCount : Handler := fun v _ => pure (.scalar (toString v.noteCount))

def entries : List (String × Handler) :=
  [("vault.random_note", randomNote), ("vault.sample_notes", sampleNotes),
   ("vault.orphan", orphan), ("vault.hub", hub), ("vault.recent_note", recentNote),
   ("vault.old_note", oldNote), ("vault.tagged_note", taggedNote),
   ("vault.neighbour", neighbour), ("vault.linked_pair", linkedPair),
   ("vault.similar_pair", similarPair), ("vault.note_count", noteCount)]

end Builtin

/-- Adds a function unless there is one of that name. -/
def Functions.addMissing (fs : Functions) (e : String × Handler) : Functions :=
  if fs.contains e.1 then fs else fs.insert e.1 e.2

/-- The functions every host starts with. -/
def Functions.builtin : Functions := Builtin.entries.foldl Functions.addMissing .empty

end NoteMuse.Host
