import NoteMuse.Proofs.Except
import NoteMuse.Proofs.Suggestion
import NoteMuse.Session

/-!
One turn of a geist. Whatever the geist does, its turn has an outcome, unless its id is no name that a
worker can have: then it is not the turn that fails but the session that breaks off.
-/

namespace NoteMuse

open Geist Isolation

/-- No worker can have the name. -/
def Unnameable (name : String) : Prop := '\x00' ∈ name.toList

instance : DecidablePred Unnameable := fun name =>
  inferInstanceAs (Decidable ('\x00' ∈ name.toList))

namespace Isolation

variable {α : Type} {name : String} {work : Except Halt α}

theorem run_of_unnameable (h : Unnameable name) : run name work = .error (.unnameable name) :=
  if_pos h

theorem run_of_nameable (h : ¬Unnameable name) : run name work = .ok (.of work) :=
  if_neg h

end Isolation

namespace Geist

/-- An error hands in nothing, whether the one that has it returns or not. -/
theorem elim_ne_ok (halt : Option Halt) (e : ErrorKind × String) (suggestions : List Suggestion) :
    halt.elim (.ok (.error e)) .error ≠ (.ok (.ok suggestions) : Except Halt Attempt) := by
  cases halt <;> simp

/-- The turn of a geist that can run is isolated work, and what it hands in is finished. -/
theorem Source.exists_work {src : Source} (h : src.runnable = true) (x : Expander)
    (seed : SessionSeed) (id : String) (earlier : Nat) :
    ∃ work : Except Halt Attempt, src.outcome x seed id earlier = (run id work).map .ofEnding ∧
      ∀ suggestions, work = .ok (.ok suggestions) → ∀ s ∈ suggestions, s.Finished id := by
  cases src with
  | grammar g count =>
    cases g with
    | none => cases h
    | some g =>
      refine ⟨_, rfl, ?_⟩
      intro suggestions hs
      unfold attemptTexts at hs
      split at hs
      · cases hs
        exact fun s hs => Suggestion.finished_of_mem_ofTexts hs
      · exact absurd hs (elim_ne_ok _ _ _)
  | code p =>
    refine ⟨_, rfl, ?_⟩
    intro suggestions hs
    unfold attemptDrafts at hs
    split at hs
    · cases hs
      exact fun s hs => Suggestion.finished_of_mem_ofDrafts hs
    · exact absurd hs (elim_ne_ok _ _ _)
    · cases hs
    · cases hs

/-- The suggestions of isolated work are what it returned. -/
theorem Outcome.eq_of_mem_suggestions {work : Except Halt Attempt} {s : Suggestion}
    (h : s ∈ (Outcome.ofEnding (.of work)).suggestions) :
    ∃ suggestions, work = .ok (.ok suggestions) ∧ s ∈ suggestions := by
  match work with
  | .ok (.ok suggestions) => exact ⟨suggestions, rfl, h⟩
  | .ok (.error e) => cases h
  | .error (.broke f) => cases h
  | .error .hung => cases h

/-- **When a grammar geist is given up**: when its expansion waits for a function that does not return. -/
theorem Source.outcome_eq_timeout_iff {id : String} (hid : ¬Unnameable id) (x : Expander) (seed : SessionSeed)
    (earlier : Nat) (g : Grammar) (count : Nat) :
    (Source.grammar (some g) count).outcome x seed id earlier = .ok .timeout ↔
      ∃ name, (x.expandMany g count (seed.generatorFor id)).1 = .error (.function (.endless name)) := by
  simp only [outcome, run_of_nameable hid]
  cases (x.expandMany g count (seed.generatorFor id)).1 with
  | ok texts => simp [attemptTexts, Except.map, Ending.of, Outcome.ofEnding]
  | error e =>
    cases e with
    | function cause =>
      cases cause <;> simp [attemptTexts, ExpansionError.halt?, Host.FunctionError.halt?, Except.map,
        Ending.of, Outcome.ofEnding]
    | tooDeep | unknownSymbol | missingPart | broke =>
      simp [attemptTexts, ExpansionError.halt?, Except.map, Ending.of, Outcome.ofEnding]

/-- A turn that has an outcome is over. -/
theorem Outcome.isTerminal_stage (o : Outcome) : o.stage.isTerminal = true := by
  cases o <;> rfl

/-- A turn that did not come to its end has no suggestions. -/
theorem Outcome.suggestions_eq_nil {o : Outcome} (h : o.stage ≠ .completed) : o.suggestions = [] := by
  cases o with
  | success s => exact absurd rfl h
  | failure k m => rfl
  | timeout => rfl

theorem Outcome.failureMessage?_eq_none_iff {o : Outcome} :
    o.failureMessage? = none ↔ o.stage = .completed := by
  cases o <;> simp [failureMessage?, stage]

end Geist

namespace Scheduler

variable {s : Scheduler} {seed : SessionSeed} {id : String} {earlier : Nat} {src : Source}

theorem geist_of_invoke {record : Record} (h : s.invoke seed id earlier src = .ok record) :
    record.geist = id := by
  obtain ⟨o, -, rfl⟩ := map_eq_ok_iff.mp h
  rfl

/-- The turn of a geist that can run breaks off exactly when its id is no name of a worker. -/
theorem invoke_eq_error_iff (h : src.runnable = true) {f : Fault} :
    s.invoke seed id earlier src = .error f ↔ Unnameable id ∧ f = .unnameable id := by
  obtain ⟨work, hwork, -⟩ := Source.exists_work h s.expander seed id earlier
  unfold invoke
  rw [hwork]
  by_cases hid : Unnameable id
  · rw [run_of_unnameable hid]
    simp [Except.map, hid, eq_comm]
  · rw [run_of_nameable hid]
    simp [Except.map, hid]

theorem finished_of_invoke (h : src.runnable = true) {record : Record}
    (hr : s.invoke seed id earlier src = .ok record) :
    ∀ x ∈ record.outcome.suggestions, x.Finished id := by
  obtain ⟨work, hwork, hfinished⟩ := Source.exists_work h s.expander seed id earlier
  obtain ⟨o, ho, rfl⟩ := map_eq_ok_iff.mp hr
  rw [hwork] at ho
  obtain ⟨ending, he, rfl⟩ := map_eq_ok_iff.mp ho
  by_cases hid : Unnameable id
  · rw [run_of_unnameable hid] at he
    cases he
  · rw [run_of_nameable hid] at he
    cases he
    intro x hx
    obtain ⟨suggestions, hs, hmem⟩ := Outcome.eq_of_mem_suggestions hx
    exact hfinished suggestions hs x hmem

end Scheduler

end NoteMuse
