import NoteMuse.Proofs.Session.Report

/-!
Runs: sessions and resets, one after another, and what becomes of one geist in them. Main statement:
`changes_after`, what one event of a run can do to a geist; all that is said of whole runs goes by
induction over the events and uses of a step nothing but this.
-/

namespace NoteMuse

open Geist

inductive Event where
  | session (seed : SessionSeed)
  | reset (id : String)
  deriving DecidableEq

def Event.fiveSessions : List Event :=
  [.session ⟨1⟩, .session ⟨2⟩, .session ⟨3⟩, .session ⟨4⟩, .reset "a", .reset "b", .session ⟨5⟩]

inductive Mark where
  /-- It took a turn that ended like this, and which disabled it or did not. -/
  | turn (o : Outcome) (disables : Bool)
  /-- It was reset. -/
  | reset
  deriving DecidableEq

namespace Scheduler

/-- A turn with this outcome disables the geist. -/
def disables (s : Scheduler) (o : Outcome) (d : Descriptor) : Bool :=
  match o.failureMessage? with
  | none => false
  | some m => (d.recordFailure m s.failureThreshold).2

/-- The registry after an event. A session that breaks off keeps the turns that are over, and a reset
that is refused changes nothing. -/
def after (s : Scheduler) (r : Registry) : Event → Registry
  | .session seed => (s.session r seed).2
  | .reset id =>
    match r.reset id with
    | .ok r => r
    | .error _ => r

/-- The registry after a run. -/
def run (s : Scheduler) (r : Registry) (es : List Event) : Registry := es.foldl s.after r

/-- What an event is for the geist `g`: a turn when the session has a record of it, a reset when the
reset is its own and is not refused. -/
def mark? (s : Scheduler) (g : String) (r : Registry) : Event → Option Mark
  | .session seed =>
    match (s.progress r seed).2.report.record? g, r.descriptor? g with
    | some record, some d => some (.turn record.outcome (s.disables record.outcome d))
    | _, _ => none
  | .reset id =>
    match r.reset id with
    | .ok _ => if id = g then some .reset else none
    | .error _ => none

/-- All that happens to the geist `g` in a run. -/
def history (s : Scheduler) (g : String) : Registry → List Event → List Mark
  | _, [] => []
  | r, e :: es => (s.mark? g r e).toList ++ s.history g (s.after r e) es

/-! ### Steps -/

section Steps

variable {s : Scheduler} {g : String} {r : Registry}

/-- How an event changes the entry of a geist: by a turn, which only a geist takes that is due, by a
reset, or not at all. -/
inductive Changes (s : Scheduler) (e : Entry) : Option Mark → Entry → Prop
  | none : Changes s e none e
  | turn (o : Outcome) (h : e.due = true) :
    Changes s e (some (.turn o (s.disables o e.descriptor))) (s.entryAfter o e)
  | reset (h : e.source.runnable = true) : Changes s e (some .reset) e.restored

theorem due_of_record {e : Entry} {seed : SessionSeed} {record : Record}
    (he : r.lookup? g = some e) (h : (s.progress r seed).2.report.record? g = some record) :
    e.due = true ∧ s.invoke seed g e.turns e.source = .ok record := by
  obtain ⟨done, hr⟩ := exists_reached s r seed
  obtain ⟨hmem, rfl⟩ := Report.mem_of_record? h
  obtain ⟨e', he', hd, hi⟩ := hr.invoked record hmem
  rw [he] at he'
  cases he'
  exact ⟨hd, hi⟩

theorem changes_session {e : Entry} (he : r.lookup? g = some e) (seed : SessionSeed) :
    ∃ e', (s.session r seed).2.lookup? g = some e' ∧
      Changes s e (s.mark? g r (.session seed)) e' := by
  refine ⟨s.entryWith ((s.progress r seed).2.report.record? g) e, by rw [lookup?_session, he]; rfl, ?_⟩
  have hd : r.descriptor? g = some e.descriptor := by rw [Registry.descriptor?, he]; rfl
  cases hr : (s.progress r seed).2.report.record? g with
  | none =>
    simp only [mark?, entryWith, hr]
    exact .none
  | some record =>
    simp only [mark?, entryWith, hr, hd]
    exact .turn record.outcome (due_of_record he hr).1

theorem changes_reset {e : Entry} (he : r.lookup? g = some e) (id : String) :
    ∃ e', (s.after r (.reset id)).lookup? g = some e' ∧ Changes s e (s.mark? g r (.reset id)) e' := by
  cases hr : r.reset id with
  | error c =>
    simp only [after, mark?, hr]
    exact ⟨e, he, .none⟩
  | ok r' =>
    simp only [after, mark?, hr]
    obtain ⟨x, hx, hrun, rfl⟩ := Registry.reset_eq_ok_iff.mp hr
    by_cases hg : id = g
    · subst hg
      rw [he] at hx
      cases hx
      simp only [if_true]
      exact ⟨e.restored, Registry.lookup?_put_self .., .reset hrun⟩
    · simp only [if_neg hg]
      exact ⟨e, by rwa [Registry.lookup?_put_of_ne hg], .none⟩

/-- **What an event can do to a geist.** -/
theorem changes_after {e : Entry} (he : r.lookup? g = some e) (ev : Event) :
    ∃ e', (s.after r ev).lookup? g = some e' ∧ Changes s e (s.mark? g r ev) e' := by
  cases ev with
  | session seed => exact changes_session he seed
  | reset id => exact changes_reset he id

end Steps

theorem ids_after (s : Scheduler) (r : Registry) (ev : Event) {id : String} :
    id ∈ (s.after r ev).ids ↔ id ∈ r.ids := by
  cases ev with
  | session seed => rw [after, ids_session]
  | reset id' =>
    simp only [after]
    cases hr : r.reset id' with
    | error c => exact Iff.rfl
    | ok r' =>
      obtain ⟨e, he, -, rfl⟩ := Registry.reset_eq_ok_iff.mp hr
      rw [Registry.mem_ids_put, or_iff_right_iff_imp]
      rintro rfl
      exact Registry.mem_ids.mpr ⟨e, he⟩

/-! ### Runs -/

section Runs

variable (s : Scheduler) (g : String) (r : Registry) (es : List Event)

theorem run_append (more : List Event) : s.run r (es ++ more) = s.run (s.run r es) more :=
  List.foldl_append

theorem history_append (more : List Event) :
    s.history g r (es ++ more) = s.history g r es ++ s.history g (s.run r es) more := by
  induction es generalizing r with
  | nil => rfl
  | cons e es ih =>
    rw [List.cons_append, history, ih, history, List.append_assoc]
    rfl

theorem run_concat (ev : Event) : s.run r (es ++ [ev]) = s.after (s.run r es) ev := by
  rw [run_append]
  rfl

theorem history_concat (ev : Event) :
    s.history g r (es ++ [ev]) = s.history g r es ++ (s.mark? g (s.run r es) ev).toList := by
  rw [history_append]
  exact congrArg _ (List.append_nil _)

end Runs

end Scheduler

end NoteMuse
