import NoteMuse.Preview
import NoteMuse.Proofs.Engine.Independence
import NoteMuse.Proofs.Engine.Restart
import NoteMuse.Proofs.Expansion.Rules
import NoteMuse.Proofs.Host.Builtin

/-!
The session of a shell: an engine is built that has no geist but the one that is looked at, and the geist
takes its only turn. There is a report of it, with one record, unless no worker can have the id of the geist
as its name. Main statement: `reports_iff`.
-/

namespace NoteMuse.Preview.Shell

open Geist Isolation

/-! ### The engine -/

/-- What the engine of a session is built from: nothing but the geist, its vault and a seed. -/
def setup (s : Shell) (seed : SessionSeed) (count : Nat) : Setup :=
  { Setup.ofSeed seed with vault := s.vault, grammars := [(s.id, s.grammar, some count)] }

/-- This is the report of a session with nothing but the geist, in an engine of its own. -/
def Reports (s : Shell) (seed : SessionSeed) (count : Nat) (report : Report) : Prop :=
  ∃ engine after, Engine.build (s.setup seed count) = .ok engine ∧ engine.run = .ok (report, after)

/-- The geist as it is registered. -/
def entry (s : Shell) (count : Nat) : Entry :=
  ⟨.new s.id .grammar ("inline:" ++ s.id), .grammar (some s.grammar) count, 0⟩

def engine (s : Shell) (seed : SessionSeed) (count : Nat) : Engine where
  registry := .put .empty s.id (s.entry count)
  scheduler := Engine.schedulerOf .standard .builtin s.vault
  config := .standard
  seed := seed
  stateFile := .unused

variable {s : Shell} {seed : SessionSeed} {count : Nat}

theorem build_setup (s : Shell) (seed : SessionSeed) (count : Nat) :
    Engine.build (s.setup seed count) = .ok (s.engine seed count) := by
  have hadd : Registry.empty.addGrammar s.id ("inline:" ++ s.id) s.grammar count =
      .ok (.put .empty s.id (s.entry count)) :=
    Registry.add_eq_ok_iff.mpr ⟨Registry.lookup?_empty _, rfl⟩
  have hfilled : (s.setup seed count).filled Config.standard.defaultCount =
      .ok (.put .empty s.id (s.entry count)) :=
    bind_eq_ok_iff.mpr ⟨_, rfl, bind_eq_ok_iff.mpr ⟨_, bind_eq_ok_iff.mpr ⟨_, hadd, rfl⟩, rfl⟩⟩
  exact Setup.build_eq_ok_iff.mpr ⟨_, _, _, 0, rfl, hfilled, rfl, rfl⟩

/-! ### The turn -/

/-- How the turn of the geist ends when a worker can have its id as a name. -/
def outcome (s : Shell) (seed : SessionSeed) (count : Nat) : Outcome :=
  .ofEnding (.of (attemptTexts s.id
    (s.expander.expandMany s.grammar count (seed.generatorFor s.id)).1))

/-- The report of a session in which the turn ends like this. -/
def reportOf (s : Shell) (seed : SessionSeed) (o : Outcome) : Report := ⟨seed, o.suggestions, [⟨s.id, o⟩]⟩

/-- An error that the expansion comes back with is handed on with its kind. -/
theorem attemptTexts_error {id : String} {e : ExpansionError} (he : e.halt? = none) :
    attemptTexts id (.error e) = .ok (.error (e.kind, e.message)) := by
  rw [attemptTexts, he, Option.elim_none]

/-- A turn that fails by anything but a fault fails by an error that the expansion came back with. -/
theorem halt?_eq_none_of_failure {id : String} {e : ExpansionError} {kind : ErrorKind} {message : String}
    (ho : Outcome.ofEnding (.of (attemptTexts id (.error e))) = .failure kind message)
    (he : ∀ f, e ≠ .broke f) : e.halt? = none := by
  cases h : e.halt? with
  | none => rfl
  | some halt =>
    rw [attemptTexts, h, Option.elim_some] at ho
    cases halt with
    | hung => cases ho
    | broke f =>
      cases e with
      | broke f' => exact absurd rfl (he f')
      | function cause => cases cause <;> cases h
      | tooDeep | unknownSymbol | missingPart => cases h

/-- No expansion of a shell waits for a function that does not return, so that what a shell does with an error is
done in its own time. -/
theorem expandMany_ne_endless (s : Shell) (count : Nat) (gen : Random.Generator) (name : String) :
    (s.expander.expandMany s.grammar count gen).1 ≠ .error (.function (.endless name)) := by
  have hmeets (levels : Nat) (symbol : String) :
      Expander.Meets (fun _ => True) (fun e => ∀ name, e ≠ .function (.endless name))
        (s.expander.expandAt s.grammar levels symbol) fun _ => True := by
    refine Expander.meets_expandAt trivial (fun _ _ _ _ => trivial) (by simp) (by simp) ?_ levels symbol
    intro _ _ _ _ _ n _
    refine Expander.upholds_errors (by simp) (by simp) ?_
    rintro c rfl g e hc other ⟨⟩
    -- the function would not return, but it is one of those that answer
    obtain ⟨-, f, hf, hhung⟩ := Host.call_eq_endless_iff.mp hc
    have hgives := Host.Builtin.builtin_gives hf s.expander.host.vault c.args g
    rw [hhung] at hgives
    obtain ⟨message, ⟨⟩⟩ := hgives
  intro h
  have hends := Expander.ends_expandMany (hmeets (s.expander.maxDepth + 1) originSymbol) trivial count gen
  rw [h] at hends
  exact hends name rfl

theorem ids_engine (s : Shell) (seed : SessionSeed) (count : Nat) :
    (s.engine seed count).registry.ids = [s.id] := by
  refine List.perm_singleton.mp ((List.perm_ext_iff_of_nodup (Registry.nodup_ids _)
    (List.nodup_singleton _)).mpr fun id => ?_)
  rw [engine, Registry.mem_ids_put, or_iff_left Registry.not_mem_ids_empty, List.mem_singleton, eq_comm]

theorem turn_engine (s : Shell) (seed : SessionSeed) (count : Nat) :
    (s.engine seed count).scheduler.turn seed ⟨.start seed, (s.engine seed count).registry⟩ s.id =
      if Unnameable s.id then .error (.unnameable s.id)
      else .ok ⟨s.reportOf seed (s.outcome seed count),
        (s.engine seed count).scheduler.update (s.engine seed count).registry
          ⟨s.id, s.outcome seed count⟩⟩ := by
  have hlookup : (s.engine seed count).registry.lookup? s.id = some (s.entry count) :=
    Registry.lookup?_put_self ..
  have hdue : (s.entry count).due = true := rfl
  unfold Scheduler.turn
  simp only [hlookup, hdue, if_true]
  unfold Scheduler.invoke entry Source.outcome
  by_cases h : Unnameable s.id
  · simp only [run_of_unnameable h, if_pos h]
    rfl
  · simp only [run_of_nameable h, if_neg h]
    rfl

theorem session_engine (s : Shell) (seed : SessionSeed) (count : Nat) :
    ((s.engine seed count).scheduler.session (s.engine seed count).registry seed).1 =
      if Unnameable s.id then .error (.unnameable s.id)
      else .ok (s.reportOf seed (s.outcome seed count)) := by
  unfold Scheduler.session Scheduler.progress
  rw [ids_engine, Scheduler.turns, turn_engine]
  by_cases h : Unnameable s.id
  · rw [if_pos h, if_pos h]
  · rw [if_neg h, if_neg h]
    rfl

theorem run_engine (s : Shell) (seed : SessionSeed) (count : Nat) :
    (s.engine seed count).run.map Prod.fst =
      if Unnameable s.id then .error (.unnameable s.id)
      else .ok (s.reportOf seed (s.outcome seed count)) := by
  rw [← session_engine, Engine.run, Engine.runWith_eq]
  show Except.map _ (Except.map _ ((s.engine seed count).scheduler.session _ seed).1) = _
  cases ((s.engine seed count).scheduler.session (s.engine seed count).registry seed).1 <;> rfl

/-- **When a shell has sessions**: exactly when a worker can have the id of the geist as its name. The report
has one record then, of a turn that ended as the expansions of the origin do. -/
theorem reports_iff {report : Report} :
    s.Reports seed count report ↔
      ¬Unnameable s.id ∧ report = s.reportOf seed (s.outcome seed count) := by
  have hrun := run_engine s seed count
  constructor
  · rintro ⟨engine, after, hbuild, h⟩
    cases (build_setup s seed count).symm.trans hbuild
    rw [h] at hrun
    split at hrun
    · cases hrun
    · next hid => exact ⟨hid, Except.ok.inj hrun⟩
  · rintro ⟨hid, rfl⟩
    rw [if_neg hid] at hrun
    obtain ⟨⟨report, after⟩, h, rfl⟩ := map_eq_ok_iff.mp hrun
    exact ⟨_, after, build_setup s seed count, h⟩

/-- What the shell prints of a session is its report. -/
theorem session_eq (s : Shell) :
    s.session =
      if Unnameable s.id then .error (.unnameable s.id)
      else .ok (reportLines (s.reportOf s.seed (s.outcome s.seed s.count))) := by
  have hrun := run_engine s s.seed s.count
  have hsession : s.session = ((s.engine s.seed s.count).run.map Prod.fst).map reportLines := by
    have hbuild := build_setup s s.seed s.count
    unfold setup at hbuild
    unfold session
    simp only [hbuild]
    cases (s.engine s.seed s.count).run <;> rfl
  rw [hsession, hrun]
  split <;> rfl

end NoteMuse.Preview.Shell
