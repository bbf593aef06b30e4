import Mathlib.Data.List.Nodup
import NoteMuse.Proofs.Geist.Turn
import NoteMuse.Proofs.Registry.Views

/-!
The turns of a session, seen from its start. The loop looks up every geist in the registry that earlier
turns have changed already; as each turn changes the entry of its own geist only, everything the loop
does is determined by the registry that it began with. The invariant is `Reached`; main statement:
`progress_reached`.
-/

namespace NoteMuse

open Geist

/-! ### Records in a report -/

namespace Report

variable {report : Report} {id : String} {record : Record}

theorem record?_add (report : Report) (record : Record) (id : String) :
    (report.add record).record? id =
      (report.record? id).or (if record.geist = id then some record else none) := by
  unfold record? add
  rw [List.find?_append]
  by_cases h : record.geist = id <;> simp [h]

theorem mem_of_record? (h : report.record? id = some record) :
    record ∈ report.records ∧ record.geist = id :=
  ⟨List.mem_of_find?_eq_some h, by simpa using List.find?_some h⟩

theorem record?_eq_none_iff : report.record? id = none ↔ id ∉ report.records.map Record.geist := by
  unfold record?
  rw [List.find?_eq_none, List.mem_map]
  simp

end Report

/-- The geist is enabled and can run. -/
def Registry.isDue (r : Registry) (id : String) : Bool := (r.lookup? id).any Entry.due

theorem Registry.isDue_iff {r : Registry} {id : String} :
    r.isDue id = true ↔ ∃ e, r.lookup? id = some e ∧ e.due = true := by
  unfold isDue
  rw [Option.any_eq_true]

/-- The geists that a session gives a turn, in the order of their turns. -/
def Registry.due (r : Registry) : List String := r.ids.filter r.isDue

namespace Registry

variable {r : Registry} {id : String}

theorem mem_due : id ∈ r.due ↔ ∃ e, r.lookup? id = some e ∧ e.due = true := by
  rw [due, List.mem_filter, isDue_iff, mem_ids, and_iff_right_iff_imp]
  rintro ⟨e, he, -⟩
  exact ⟨e, he⟩

theorem due_pairwise (r : Registry) : r.due.Pairwise (· < ·) := r.ids_pairwise.filter _

end Registry

namespace Scheduler

variable {s : Scheduler} {seed : SessionSeed}

/-! ### One turn -/

theorem turn_ok {p p' : Progress} {id : String} (h : s.turn seed p id = .ok p') :
    (p.registry.isDue id = false ∧ p' = p) ∨
      ∃ e record, p.registry.lookup? id = some e ∧ e.due = true ∧
        s.invoke seed id e.turns e.source = .ok record ∧
        p' = ⟨p.report.add record, p.registry.put id (s.entryAfter record.outcome e)⟩ := by
  unfold turn at h
  unfold Registry.isDue
  split at h
  · next hn =>
    left
    rw [hn]
    exact ⟨rfl, (Except.ok.inj h).symm⟩
  · next e he =>
    split at h
    · next hd =>
      right
      obtain ⟨record, hr, rfl⟩ := map_eq_ok_iff.mp h
      refine ⟨e, record, he, hd, hr, ?_⟩
      rw [update, geist_of_invoke hr, he]
    · next hd =>
      left
      rw [he]
      exact ⟨Bool.eq_false_iff.mpr hd, (Except.ok.inj h).symm⟩

/-- A turn that breaks off is that of a geist that is due and whose id is no name of a worker. -/
theorem turn_error {p : Progress} {id : String} {f : Fault} (h : s.turn seed p id = .error f) :
    p.registry.isDue id = true ∧ Unnameable id ∧ f = .unnameable id := by
  unfold turn at h
  split at h
  · cases h
  · next e he =>
    split at h
    · next hd =>
      cases hi : s.invoke seed id e.turns e.source with
      | error f' =>
        rw [hi] at h
        cases h
        have hrun : e.source.runnable = true := (Bool.and_eq_true_iff.mp hd).2
        exact ⟨Registry.isDue_iff.mpr ⟨e, he, hd⟩, (invoke_eq_error_iff hrun).mp hi⟩
      | ok record =>
        rw [hi] at h
        cases h
    · cases h

/-! ### All turns -/

/-- The entry of a geist in a session that has this record of it, or none. -/
def entryWith (s : Scheduler) (record? : Option Record) (e : Entry) : Entry :=
  match record? with
  | none => e
  | some record => s.entryAfter record.outcome e

/-- How far a session that began with the registry `r` has come when the geists `done` are through. -/
structure Reached (s : Scheduler) (seed : SessionSeed) (r : Registry) (done : List String)
    (p : Progress) : Prop where
  seed_eq : p.report.seed = seed
  suggestions : p.report.suggestions = p.report.records.flatMap fun r => r.outcome.suggestions
  geists : p.report.records.map Record.geist = done.filter r.isDue
  /-- The record of a geist is that of its turn in the registry at the start. -/
  invoked : ∀ record ∈ p.report.records, ∃ e, r.lookup? record.geist = some e ∧ e.due = true ∧
    s.invoke seed record.geist e.turns e.source = .ok record
  entries : ∀ id, p.registry.lookup? id = (r.lookup? id).map (s.entryWith (p.report.record? id))

namespace Reached

variable {r : Registry} {done : List String} {p p' : Progress} {id : String}

theorem start (s : Scheduler) (seed : SessionSeed) (r : Registry) :
    Reached s seed r [] ⟨.start seed, r⟩ where
  seed_eq := rfl
  suggestions := rfl
  geists := rfl
  invoked := fun _ h => absurd h List.not_mem_nil
  entries := by
    intro id
    show r.lookup? id = (r.lookup? id).map fun e => e
    rw [Option.map_id']

theorem lookup?_of_not_mem (h : Reached s seed r done p) (hid : id ∉ done) :
    p.registry.lookup? id = r.lookup? id := by
  have hnone : p.report.record? id = none := by
    rw [Report.record?_eq_none_iff, h.geists]
    exact fun hm => hid (List.mem_filter.mp hm).1
  rw [h.entries id]
  unfold entryWith
  simp only [hnone, Option.map_id']

theorem isDue_of_not_mem (h : Reached s seed r done p) (hid : id ∉ done) :
    p.registry.isDue id = r.isDue id := by
  unfold Registry.isDue
  rw [h.lookup?_of_not_mem hid]

/-- One turn takes a session one geist further. -/
theorem turn (h : Reached s seed r done p) (hid : id ∉ done)
    (ht : s.turn seed p id = .ok p') : Reached s seed r (done ++ [id]) p' := by
  rcases turn_ok ht with ⟨hdue, rfl⟩ | ⟨e, record, he, hdue, hrecord, rfl⟩
  · rw [h.isDue_of_not_mem hid] at hdue
    refine ⟨h.seed_eq, h.suggestions, ?_, h.invoked, h.entries⟩
    rw [List.filter_append, List.filter_singleton, hdue, h.geists]
    exact (List.append_nil _).symm
  -- the geist is due: one record more, and no entry changes but its own
  · have hgeist := geist_of_invoke hrecord
    have hdue' : p.registry.isDue id = true := Registry.isDue_iff.mpr ⟨e, he, hdue⟩
    rw [h.lookup?_of_not_mem hid] at he
    rw [h.isDue_of_not_mem hid] at hdue'
    refine ⟨h.seed_eq, ?_, ?_, ?_, ?_⟩
    · simp only [Report.add, h.suggestions, List.flatMap_append, List.flatMap_singleton]
    · simp only [Report.add, List.map_append, List.map_singleton, h.geists, hgeist,
        List.filter_append, List.filter_singleton, hdue', cond_true]
    · intro x hx
      rcases List.mem_append.mp hx with hx | hx
      · exact h.invoked x hx
      · obtain rfl := List.mem_singleton.mp hx
        rw [hgeist]
        exact ⟨e, he, hdue, hrecord⟩
    · intro other
      rw [Registry.lookup?_put]
      unfold entryWith
      simp only [Report.record?_add, hgeist]
      by_cases ho : id = other
      · subst ho
        -- a geist has one turn in a session, so it has no record before this one
        have hnone : p.report.record? id = none := by
          rw [Report.record?_eq_none_iff, h.geists]
          exact fun hm => hid (List.mem_filter.mp hm).1
        simp only [if_true, hnone, Option.none_or, he, Option.map_some]
      · simp only [if_neg ho, Option.or_none]
        exact h.entries other

/-- **How far the turns of a list of geists take a session**: through all of them, or up to the first
that is due and has an id that is no name of a worker. -/
theorem turns (h : Reached s seed r done p) {ids : List String} (hn : (done ++ ids).Nodup) :
    ((s.turns seed p ids).1 = none ∧ Reached s seed r (done ++ ids) (s.turns seed p ids).2) ∨
      ∃ reached id rest, ids = reached ++ id :: rest ∧ r.isDue id = true ∧ Unnameable id ∧
        (s.turns seed p ids).1 = some (.unnameable id) ∧
        Reached s seed r (done ++ reached) (s.turns seed p ids).2 := by
  -- the invariant is `Reached`, for what is done and what is still to come
  induction ids generalizing done p with
  | nil =>
    left
    rw [List.append_nil]
    exact ⟨rfl, h⟩
  | cons id ids ih =>
    have hid : id ∉ done := fun hm =>
      (List.disjoint_of_nodup_append hn) hm (List.mem_cons_self ..)
    unfold Scheduler.turns
    split
    · next p' ht =>
      have hstep : Reached s seed r (done ++ [id]) p' := h.turn hid ht
      have hsplit : done ++ id :: ids = done ++ [id] ++ ids := by
        rw [List.append_assoc, List.singleton_append]
      rw [hsplit] at hn ⊢
      rcases ih hstep hn with hall | ⟨reached, x, rest, rfl, hx⟩
      · exact .inl hall
      · right
        refine ⟨id :: reached, x, rest, rfl, ?_⟩
        rwa [List.append_assoc, List.singleton_append] at hx
    · next f ht =>
      right
      obtain ⟨hdue, hname, rfl⟩ := turn_error ht
      rw [h.isDue_of_not_mem hid] at hdue
      refine ⟨[], id, ids, rfl, hdue, hname, rfl, ?_⟩
      rwa [List.append_nil]

end Reached

/-- **How far a session comes**, from its first turn on. -/
theorem progress_reached (s : Scheduler) (r : Registry) (seed : SessionSeed) :
    ((s.progress r seed).1 = none ∧ Reached s seed r r.ids (s.progress r seed).2) ∨
      ∃ reached id rest, r.ids = reached ++ id :: rest ∧ r.isDue id = true ∧ Unnameable id ∧
        (s.progress r seed).1 = some (.unnameable id) ∧
        Reached s seed r reached (s.progress r seed).2 :=
  (Reached.start s seed r).turns r.nodup_ids

end Scheduler

end NoteMuse
