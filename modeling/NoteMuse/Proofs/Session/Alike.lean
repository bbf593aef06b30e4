import NoteMuse.Proofs.Registry.Restore
import NoteMuse.Proofs.Session.Run

/-!
Sessions of registries that show the same. The number of turns that a geist took is not seen, and it makes
no difference where no geist remembers its turns: then sessions with one seed give the same report, and the
registries show the same after them. Main statement: `session_alike`.
-/

namespace NoteMuse

open Geist

/-! ### Geists without memory -/

/-- The outcome of a turn does not depend on the number of turns before. -/
def Geist.Source.Memoryless (src : Source) : Prop :=
  ∀ x seed id m n, src.outcome x seed id m = src.outcome x seed id n

theorem memoryless_grammar (g : Option Grammar) (count : Nat) : (Source.grammar g count).Memoryless := by
  intro x seed id m n
  cases g <;> rfl

theorem memoryless_code {p : Program} (h : ∀ m n, p m = p n) : (Source.code p).Memoryless := by
  intro x seed id m n
  simp only [Source.outcome, h m n]

/-- No geist of the registry remembers its turns. -/
def Registry.Memoryless (r : Registry) : Prop := ∀ id e, r.lookup? id = some e → e.source.Memoryless

theorem Registry.Memoryless.of_becomes {r₀ r : Registry} (h₀ : r₀.Memoryless) (h : r₀.Becomes r) :
    r.Memoryless := by
  intro id e he
  obtain ⟨e₀, he₀, hb⟩ := h.exists_entry he
  rw [hb.source]
  exact h₀ id e₀ he₀

/-! ### Entries over time -/

namespace Scheduler

variable {s : Scheduler} {seed : SessionSeed}

theorem becomes_entryAfter {e : Entry} (h : e.due = true) (o : Outcome) : e.Becomes (s.entryAfter o e) := by
  obtain ⟨henabled, hrun⟩ := Bool.and_eq_true_iff.mp h
  have hfollows : e.descriptor.Follows s.failureThreshold o (s.afterTurn o e.descriptor) :=
    afterTurn_follows henabled o
  exact ⟨rfl, hfollows.id, hfollows.kind, hfollows.sourceRef,
    fun hstuck => absurd (hrun.symm.trans hstuck) (by decide)⟩

/-- A session leaves every geist what it was. -/
theorem becomes_session {r₀ r : Registry} (h : r₀.Becomes r) (s : Scheduler) (seed : SessionSeed) :
    r₀.Becomes (s.session r seed).2 := by
  refine h.map ?_ (lookup?_session s r seed)
  intro id e he
  cases hr : (s.progress r seed).2.report.record? id with
  | none => exact .refl e
  | some record => exact becomes_entryAfter (due_of_record he hr).1 record.outcome

end Scheduler

/-! ### Two sessions -/

structure Progress.Alike (p p' : Progress) : Prop where
  report : p.report = p'.report
  registry : p.registry.Alike p'.registry
  memoryless : p.registry.Memoryless

theorem Registry.Alike.put {r r' : Registry} (h : r.Alike r') {e e' : Entry} (he : e.shown = e'.shown)
    (id : String) : (r.put id e).Alike (r'.put id e') := by
  intro other
  rw [lookup?_put, lookup?_put]
  by_cases hid : id = other
  · rw [if_pos hid, if_pos hid]
    exact congrArg some he
  · rw [if_neg hid, if_neg hid]
    exact h other

theorem Registry.Memoryless.put {r : Registry} (h : r.Memoryless) {e : Entry} (he : e.source.Memoryless)
    (id : String) : (r.put id e).Memoryless :=
  forall_put h he

namespace Scheduler

variable {s : Scheduler} {seed : SessionSeed} {p p' : Progress}

/-- One turn of both sessions: it breaks off in both, or both go on. -/
theorem turn_alike (h : p.Alike p') (id : String) :
    (∃ f, s.turn seed p id = .error f ∧ s.turn seed p' id = .error f) ∨
      ∃ q q', s.turn seed p id = .ok q ∧ s.turn seed p' id = .ok q' ∧ q.Alike q' := by
  have hid := h.registry id
  cases he : p.registry.lookup? id with
  | none =>
    cases he' : p'.registry.lookup? id with
    | some e' => simp [he, he'] at hid
    | none =>
      right
      refine ⟨p, p', ?_, ?_, h⟩
      · unfold turn; rw [he]
      · unfold turn; rw [he']
  | some e =>
    cases he' : p'.registry.lookup? id with
    | none => simp [he, he'] at hid
    | some e' =>
      have hshown : e.shown = e'.shown := by simpa [he, he'] using hid
      obtain ⟨hdescriptor, hsource⟩ := Prod.mk.inj hshown
      have hdue : e.due = e'.due := by rw [Entry.due, Entry.due, hdescriptor, hsource]
      -- the number of turns is not shown, but nothing that has no memory reads it
      have hinvoke : s.invoke seed id e'.turns e'.source = s.invoke seed id e.turns e.source := by
        unfold invoke
        rw [← hsource, h.memoryless id e he]
      unfold turn
      simp only [he, he', ← hdue, hinvoke]
      by_cases hd : e.due = true
      · rw [if_pos hd, if_pos hd]
        cases hr : s.invoke seed id e.turns e.source with
        | error f => exact .inl ⟨f, rfl, rfl⟩
        | ok record =>
          have hgeist := geist_of_invoke hr
          have hafter : (s.entryAfter record.outcome e).shown = (s.entryAfter record.outcome e').shown := by
            simp only [Entry.shown, entryAfter, hdescriptor, hsource]
          refine .inr ⟨_, _, rfl, rfl, ?_, ?_, ?_⟩
          · rw [h.report]
          · simp only [update, hgeist, he, he']
            exact h.registry.put hafter id
          · simp only [update, hgeist, he]
            exact h.memoryless.put (e := s.entryAfter record.outcome e) (h.memoryless id e he) id
      · rw [if_neg hd, if_neg hd]
        exact .inr ⟨p, p', rfl, rfl, h⟩

theorem turns_alike (h : p.Alike p') (ids : List String) :
    (s.turns seed p ids).1 = (s.turns seed p' ids).1 ∧
      (s.turns seed p ids).2.Alike (s.turns seed p' ids).2 := by
  induction ids generalizing p p' with
  | nil => exact ⟨rfl, h⟩
  | cons id ids ih =>
    unfold turns
    rcases turn_alike h id with ⟨f, hf, hf'⟩ | ⟨q, q', hq, hq', hall⟩
    · rw [hf, hf']
      exact ⟨rfl, h⟩
    · rw [hq, hq']
      exact ih hall

/-- **Sessions of registries that show the same** give the same, and the registries show the same after
them. -/
theorem session_alike {r r' : Registry} (h : r.Alike r') (hm : r.Memoryless) (s : Scheduler)
    (seed : SessionSeed) :
    (s.session r seed).1 = (s.session r' seed).1 ∧ (s.session r seed).2.Alike (s.session r' seed).2 := by
  have hstart : Progress.Alike ⟨.start seed, r⟩ ⟨.start seed, r'⟩ := ⟨rfl, h, hm⟩
  obtain ⟨hfault, hall⟩ := turns_alike (s := s) hstart r.ids
  have hprogress : s.progress r' seed = s.turns seed ⟨.start seed, r'⟩ r.ids := by
    rw [progress, h.ids_eq]
  rw [← hprogress, ← progress] at hfault hall
  refine ⟨?_, ?_⟩
  · unfold session
    rcases hp : s.progress r seed with ⟨f, p⟩
    rcases hp' : s.progress r' seed with ⟨f', p'⟩
    simp only [hp, hp'] at hfault hall
    subst hfault
    cases f with
    | none => exact congrArg Except.ok hall.report
    | some f => rfl
  · rw [session_snd, session_snd]
    exact hall.registry

end Scheduler

end NoteMuse
