import NoteMuse.Registry

/-!
Sessions: every geist that is enabled and can run takes one turn, in the order of the ids. A turn that
fails is recorded and disables the geist when it fails too often in a row, and it does not keep the
others from theirs.
-/

namespace NoteMuse

open Geist

/-- What a session gave. -/
structure Report where
  seed : SessionSeed
  /-- The suggestions of all turns, in the order of the turns. -/
  suggestions : List Suggestion
  /-- One record for every turn, in the order of the turns. -/
  records : List Record
  deriving DecidableEq, Repr

namespace Report

def start (seed : SessionSeed) : Report := ⟨seed, [], []⟩

def add (report : Report) (r : Record) : Report :=
  { report with
    suggestions := report.suggestions ++ r.outcome.suggestions
    records := report.records ++ [r] }

/-- The record of a geist. -/
def record? (report : Report) (id : String) : Option Record :=
  report.records.find? fun r => r.geist = id

def failed (report : Report) : List String :=
  (report.records.filter fun r => r.outcome.errorKind?.isSome).map Record.geist

end Report

/-- The geist takes a turn in a session: it is enabled and can run. -/
def Entry.due (e : Entry) : Bool := e.descriptor.enabled && e.source.runnable

/-- What the turns of a session have in common. -/
structure Scheduler where
  expander : Expander
  failureThreshold : UInt32

/-- How far a session has come. -/
structure Progress where
  report : Report
  registry : Registry

namespace Scheduler

def invoke (s : Scheduler) (seed : SessionSeed) (id : String) (earlier : Nat) (source : Source) :
    Except Fault Record :=
  (source.outcome s.expander seed id earlier).map fun o => ⟨id, o⟩

def afterTurn (s : Scheduler) (o : Outcome) (d : Descriptor) : Descriptor :=
  match o.failureMessage? with
  | none => d.recordSuccess
  | some m => (d.recordFailure m s.failureThreshold).1

def entryAfter (s : Scheduler) (o : Outcome) (e : Entry) : Entry :=
  { e with descriptor := s.afterTurn o e.descriptor, turns := e.turns + 1 }

/-- The registry after a turn. -/
def update (s : Scheduler) (r : Registry) (record : Record) : Registry :=
  match r.lookup? record.geist with
  | none => r
  | some e => r.put record.geist (s.entryAfter record.outcome e)

/-- The turn of a geist in a session: nothing happens when the geist is disabled or cannot run. -/
def turn (s : Scheduler) (seed : SessionSeed) (p : Progress) (id : String) :
    Except Fault Progress :=
  match p.registry.lookup? id with
  | none => .ok p
  | some e =>
    if e.due then
      (s.invoke seed id e.turns e.source).map fun record =>
        ⟨p.report.add record, s.update p.registry record⟩
    else .ok p

/-- The turns of these geists one after another, until all are over or one breaks off. -/
def turns (s : Scheduler) (seed : SessionSeed) (p : Progress) :
    List String → Option Fault × Progress
  | [] => (none, p)
  | id :: rest =>
    match s.turn seed p id with
    | .ok p => s.turns seed p rest
    | .error f => (some f, p)

/-- A session from its first turn on. -/
def progress (s : Scheduler) (r : Registry) (seed : SessionSeed) : Option Fault × Progress :=
  s.turns seed ⟨.start seed, r⟩ r.ids

/-- A session: its report, unless a turn breaks off, and in any case the registry after it. -/
def session (s : Scheduler) (r : Registry) (seed : SessionSeed) :
    Except Fault Report × Registry :=
  match s.progress r seed with
  | (none, p) => (.ok p.report, p.registry)
  | (some f, p) => (.error f, p.registry)

end Scheduler

end NoteMuse
