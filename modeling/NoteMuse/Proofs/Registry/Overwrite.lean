import NoteMuse.Proofs.Registry.Edit

/-!
Restoring is overwriting. The states that a list keeps of geists are restored one after another, and what is left in
the end is as if each geist that can run had got the last of them under its id and nothing else had been touched.
Main statement: `restore_last_wins`.
-/

namespace NoteMuse

namespace Registry

open Geist

variable {r r' : Registry} {id : String} {s : SavedGeist} {states xs ys : List SavedGeist}

/-! ### The last state under an id -/

lemma lastOf_eq_some_iff :
    lastOf states id = some s ↔
      s.id = id ∧ ∃ before after, states = before ++ s :: after ∧ ∀ t ∈ after, t.id ≠ id := by
  simp only [lastOf, List.find?_eq_some_iff_append, decide_eq_true_eq, Bool.not_eq_true', decide_eq_false_iff_not]
  refine and_congr_right fun _ => ⟨?_, ?_⟩
  · rintro ⟨after, before, hstates, hafter⟩
    refine ⟨before.reverse, after.reverse, ?_, fun t ht => hafter t (List.mem_reverse.mp ht)⟩
    rw [← List.reverse_reverse states, hstates]
    simp
  · rintro ⟨before, after, rfl, hafter⟩
    exact ⟨after.reverse, before.reverse, by simp, fun t ht => hafter t (List.mem_reverse.mp ht)⟩

lemma lastOf_eq_none_iff : lastOf states id = none ↔ ∀ s ∈ states, s.id ≠ id := by
  simp [lastOf, List.find?_eq_none]

/-! ### Registries by their entries -/

lemma eq_of_lookup? (h : ∀ id, r.lookup? id = r'.lookup? id) : r = r' :=
  congrArg Registry.mk (Std.ExtTreeMap.ext_getElem? h)

/-- A geist that can run is registered under the id. -/
def canRun (r : Registry) (id : String) : Bool := (r.source? id).any Source.runnable

lemma canRun_of_lookup? {kept : String → Option SavedGeist}
    (h : ∀ id, r'.lookup? id = (r.lookup? id).map fun e => e.withSaved (kept id)) : r'.canRun = r.canRun := by
  funext id
  unfold canRun source?
  rw [h, Option.map_map]
  refine congrArg (fun f => ((r.lookup? id).map f).any Source.runnable) (funext fun e => ?_)
  exact (e.becomes_withSaved (kept id)).source

lemma canRun_restoreOne (r : Registry) (s : SavedGeist) : (r.restoreOne s).1.canRun = r.canRun :=
  canRun_of_lookup? (r.lookup?_restoreOne s)

lemma canRun_restore (r : Registry) (states : List SavedGeist) : (r.restore states).1.canRun = r.canRun :=
  canRun_of_lookup? (r.lookup?_restore states)

lemma ids_restore (r : Registry) (states : List SavedGeist) : (r.restore states).1.ids = r.ids := by
  refine (ids_pairwise _).eq_of_mem_iff (ids_pairwise _) fun id => ?_
  rw [mem_ids, mem_ids, lookup?_restore]
  simp

/-! ### Counting -/

lemma snd_restoreOne (r : Registry) (s : SavedGeist) : (r.restoreOne s).2 = r.canRun s.id := by
  unfold restoreOne canRun source?
  cases he : r.lookup? s.id with
  | none => rfl
  | some e => cases hrun : e.source.runnable <;> simp [hrun]

/-- **The number of states that are restored** is the number of those under whose id a geist is registered that can
run, repetitions included. -/
theorem snd_restore (r : Registry) (states : List SavedGeist) :
    (r.restore states).2 = states.countP fun s => r.canRun s.id := by
  induction states generalizing r with
  | nil => rfl
  | cons s states ih =>
    show ((r.restoreOne s).1.restore states).2 + (r.restoreOne s).2.toNat = _
    rw [ih, canRun_restoreOne, snd_restoreOne, List.countP_cons]
    cases r.canRun s.id <;> rfl

/-! ### Lists after one another -/

lemma restore_append (r : Registry) (xs ys : List SavedGeist) :
    r.restore (xs ++ ys) =
      (((r.restore xs).1.restore ys).1, (r.restore xs).2 + ((r.restore xs).1.restore ys).2) := by
  induction xs generalizing r with
  | nil => simp [restore]
  | cons s xs ih =>
    simp only [List.cons_append, restore]
    rw [ih]
    simp only [Prod.mk.injEq, true_and]
    omega

/-- A geist that got the last of its states back gets nothing else back when they are restored again. -/
theorem restore_restore (r : Registry) (states : List SavedGeist) :
    (r.restore states).1.restore states = r.restore states := by
  refine Prod.ext (eq_of_lookup? fun id => ?_) ?_
  · rw [lookup?_restore, lookup?_restore, Option.map_map]
    refine congrArg (fun f => (r.lookup? id).map f) (funext fun e => ?_)
    rw [Function.comp_apply, withSaved_withSaved, Option.or_self]
  · rw [snd_restore, snd_restore, canRun_restore]

/-! ### What was just kept -/

lemma withSaved_ofDescriptor (e : Entry) : e.withSaved (some (.ofDescriptor e.descriptor)) = e := by
  unfold Entry.withSaved
  simp only
  split <;> rfl

/-- A registry that gets back what was just kept of it stays as it is. -/
theorem restore_own (h : r.Keyed) : (r.restore r.saved).1 = r := by
  refine eq_of_lookup? fun id => ?_
  rw [lookup?_restore, lastOf_saved h, descriptor?]
  cases r.lookup? id with
  | none => rfl
  | some e => exact congrArg some (withSaved_ofDescriptor e)

lemma map_id_saved (h : r.Keyed) : r.saved.map SavedGeist.id = r.ids := by
  have hid : ∀ id ∈ r.ids, (r.descriptor? id).map Descriptor.id = some id := by
    intro id hmem
    obtain ⟨e, he⟩ := mem_ids.mp hmem
    rw [descriptor?, he]
    exact congrArg some (h id e he)
  rw [saved, List.map_map, descriptors_eq, List.map_filterMap]
  exact (List.filterMap_congr hid).trans List.filterMap_some

/-! ### The last state wins -/

/-- In `r'` each geist of `r` that can run has the last of the states under its id, and nothing else is different. -/
structure LastWins (r : Registry) (states : List SavedGeist) (r' : Registry) : Prop where
  ids : r'.ids = r.ids
  restored : ∀ id e before s after, r.lookup? id = some e → e.source.runnable = true →
    states = before ++ s :: after → s.id = id → (∀ t ∈ after, t.id ≠ id) →
    r'.lookup? id = some { e with descriptor :=
      { e.descriptor with enabled := s.enabled, failures := s.failures, lastError := s.lastError } }
  untouched : ∀ id e, r.lookup? id = some e → (e.source.runnable = false ∨ ∀ s ∈ states, s.id ≠ id) →
    r'.lookup? id = some e

lemma lastWins_restore (r : Registry) (states : List SavedGeist) : r.LastWins states (r.restore states).1 where
  ids := r.ids_restore states
  restored := by
    intro id e before s after he hrun hstates hid hafter
    have hlast : lastOf states id = some s := lastOf_eq_some_iff.mpr ⟨hid, before, after, hstates, hafter⟩
    rw [lookup?_restore, he, hlast]
    simp [Entry.withSaved, hrun, SavedGeist.restore]
  untouched := by
    rintro id e he (hstuck | habsent)
    · rw [lookup?_restore, he, Option.map_some, withSaved_of_stuck hstuck]
    · rw [lookup?_restore, he, lastOf_eq_none_iff.mpr habsent]
      rfl

theorem WellKept.run (h : r.WellKept) (ops : List Operation) : (r.run ops).WellKept :=
  List.foldlRecOn ops _ h fun _ h op _ => h.after op

/-- **The last state wins.** Restoring is never refused. It overwrites the state of every geist that can run by the
last state under its id, leaves all else as it is, and counts the states under whose id a geist is registered that can
run. Two lists after one another are restored as one, a list is restored twice as it is once, and what was just kept of
a registry changes nothing in it; for this the geists have to be registered under their own ids, as they are in every
registry that was empty at first. -/
theorem restore_last_wins :
    (∀ r states, ∃ r', (Edit.restore states).run r = .ok (states.countP fun s => r.canRun s.id) r' ∧
      r.LastWins states r') ∧
    (∀ xs ys, Edit.restore (xs ++ ys) = do
      let m ← Edit.restore xs
      let n ← Edit.restore ys
      return m + n) ∧
    (∀ states, (do
      let _ ← Edit.restore states
      Edit.restore states) = Edit.restore states) ∧
    (∀ r, r.Keyed → (Edit.restore r.saved).run r = .ok (r.ids.countP r.canRun) r) ∧
    ∀ ops, (empty.run ops).Keyed := by
  have hrun : ∀ r states, (Edit.restore states).run r =
      .ok (states.countP fun s => r.canRun s.id) (r.restore states).1 := by
    intro r states
    rw [Edit.run_restore, snd_restore]
  refine ⟨fun r states => ⟨_, hrun r states, r.lastWins_restore states⟩, ?_, ?_, ?_, ?_⟩
  -- edits are the same when they do the same to every registry
  · intro xs ys
    funext r
    show (Edit.restore (xs ++ ys)).run r = EStateM.run _ r
    rw [Edit.run_restore, restore_append, EStateM.run_bind, Edit.run_restore]
    simp only
    rw [EStateM.run_bind, Edit.run_restore]
    rfl
  · intro states
    funext r
    show EStateM.run _ r = (Edit.restore states).run r
    rw [EStateM.run_bind, Edit.run_restore]
    simp only
    rw [Edit.run_restore, restore_restore]
  · intro r hkeyed
    have hcount : (r.saved.countP fun s => r.canRun s.id) = r.ids.countP r.canRun := by
      rw [← map_id_saved hkeyed, List.countP_map]
      rfl
    rw [hrun, restore_own hkeyed, hcount]
  · exact fun ops => (wellKept_empty.run ops).keyed

def idleAndStuck : Registry := oneIdle.put "y" (.invalid "y" "inline" "no origin")

theorem restore_last_wins_idle_and_stuck :
    idleAndStuck.Keyed ∧ (Edit.restore idleAndStuck.saved).run idleAndStuck = .ok 1 idleAndStuck := by
  have hidle : oneIdle.WellKept := wellKept_empty.put rfl nofun
  have hkept : idleAndStuck.WellKept := hidle.put rfl fun _ => rfl
  have hcount : idleAndStuck.ids.countP idleAndStuck.canRun = 1 := by decide +kernel
  exact ⟨hkept.keyed, hcount ▸ restore_last_wins.2.2.2.1 idleAndStuck hkept.keyed⟩

end Registry

end NoteMuse
