import NoteMuse.Call
import NoteMuse.Modifier

/-!
Templates: literal text with references to symbols, calls of functions, and actions that bind a name
to the expansion of a template of its own.
-/

namespace NoteMuse

/-- One step after the name of a referenced symbol. -/
inductive Step where
  /-- Keeps one part of a cluster, counted from zero. -/
  | part (index : Nat)
  | apply (modifier : Modifier)
  deriving DecidableEq, Repr

/-- A segment of a template. -/
inductive Segment where
  | literal (text : String)
  | reference (symbol : String) (steps : List Step)
  | call (c : Call)
  /-- Expands the body once and binds the result to the name. -/
  | action (name : String) (body : List Segment)
  deriving Repr

/-- A sequence of segments. -/
abbrev Template := List Segment

mutual

/-- The segment and, for an action, all segments inside it. -/
def Segment.nodes : Segment → List Segment
  | .action name body => .action name body :: Template.nodes body
  | s => [s]

/-- All segments in the order of the text, an action before what is inside it. -/
def Template.nodes : Template → List Segment
  | [] => []
  | s :: rest => s.nodes ++ Template.nodes rest

end

namespace Segment

/-- The symbol that a reference reads. -/
def referenced? : Segment → Option String
  | reference symbol _ => some symbol
  | _ => none

/-- The name that an action binds. -/
def bound? : Segment → Option String
  | action name _ => some name
  | _ => none

def called? : Segment → Option Call
  | call c => some c
  | _ => none

end Segment

namespace Template

/-- The symbols that the template reads, inside actions too. -/
def references (t : Template) : List String := t.nodes.filterMap Segment.referenced?

def bindings (t : Template) : List String := t.nodes.filterMap Segment.bound?

/-- The calls that the template makes, inside actions too. -/
def calls (t : Template) : List Call := t.nodes.filterMap Segment.called?

/-- The template with a character of literal text in front. -/
def pushChar (c : Char) : Template → Template
  | .literal s :: rest => .literal (String.singleton c ++ s) :: rest
  | t => .literal (String.singleton c) :: t

end Template

end NoteMuse
