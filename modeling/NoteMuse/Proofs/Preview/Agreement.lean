import NoteMuse.Proofs.Expansion.Rules
import NoteMuse.Proofs.Grammar.Rows
import NoteMuse.Proofs.Preview.Replies
import NoteMuse.Proofs.Template.RoundTrip

/-!
The shell and the engine agree. `expand` draws from a stream that it keeps from line to line, and a session
from one that it makes anew; when the stream is started again from the seed of a session, the expansions of
the session come out line by line, however their number is divided among the lines. Main statement:
`agrees_iff`.
-/

namespace NoteMuse.Preview.Shell

open Geist

/-! ### Expansions line by line -/

def expandLines (counts : List Nat) : List String := counts.map fun n => "expand " ++ toString n

/-- The lines that start the stream again from a seed and then expand the origin. -/
def seedLines (seed : SessionSeed) (counts : List Nat) : List String :=
  ("seed " ++ seed.text) :: expandLines counts

variable {s : Shell} {seed : SessionSeed} {counts : List Nat}

theorem replies_seedLines (s : Shell) (seed : SessionSeed) (counts : List Nat) :
    s.replies (seedLines seed counts) =
      ([.text ("Seed: " ++ seed.text)] :: ((s.startAt seed).replies (expandLines counts)).1,
        ((s.startAt seed).replies (expandLines counts)).2) := by
  rw [seedLines, replies, Command.ofLine_seed]
  rfl

theorem replies_expandLines (hcounts : counts.sum < UInt64.size) {texts : List String}
    (h : (s.expander.expandMany s.grammar counts.sum s.generator).1 = .ok texts) :
    ∃ printed : List (List Suggestion), printed.flatten = Suggestion.ofTexts s.id texts ∧
      s.replies (expandLines counts) = (printed.map fun x => x.flatMap suggestionLines, none) := by
  induction counts generalizing s texts with
  | nil =>
    cases h
    exact ⟨[], rfl, rfl⟩
  | cons n counts ih =>
    rw [List.sum_cons] at hcounts h
    rw [Expander.expandMany_add] at h
    rcases hfirst : s.expander.expandMany s.grammar n s.generator with ⟨e | first, gen⟩
    · rw [hfirst] at h
      cases h
    · -- the first line leaves the stream where the other lines have to go on
      rw [hfirst] at h
      obtain ⟨rest, hrest, rfl⟩ := map_eq_ok_iff.mp h
      have hrun : s.run (Command.ofLine ("expand " ++ toString n)) =
          .ok ({ s with generator := gen }, (Suggestion.ofTexts s.id first).flatMap suggestionLines) := by
        rw [Command.ofLine_expand (by omega), run, expand, hfirst]
      obtain ⟨printed, hprinted, hreplies⟩ := ih (s := { s with generator := gen }) (by omega) hrest
      refine ⟨Suggestion.ofTexts s.id first :: printed, ?_, ?_⟩
      · rw [List.flatten_cons, hprinted, Suggestion.ofTexts_append]
      · rw [expandLines, List.map_cons, replies, hrun]
        simp only
        rw [if_neg (by rw [Command.ofLine_expand (by omega)]; rintro ⟨⟩), ← expandLines, hreplies]
        rfl

theorem replies_expandLines_error {count : Nat} (hcount : count < UInt64.size) {e : ExpansionError}
    (h : (s.expander.expandMany s.grammar count s.generator).1 = .error e) (he : ∀ f, e ≠ .broke f) :
    s.replies (expandLines [count]) = ([[.text ("ERROR [" ++ e.kind.label ++ "]: " ++ e.message)]], none) := by
  have hrun : ∃ s', s.run (Command.ofLine ("expand " ++ toString count)) =
      .ok (s', [.text ("ERROR [" ++ e.kind.label ++ "]: " ++ e.message)]) := by
    rw [Command.ofLine_expand hcount, run, expand]
    rcases hmany : s.expander.expandMany s.grammar count s.generator with ⟨e' | texts, gen⟩
    · rw [hmany] at h
      cases h
      cases e with
      | broke f => exact absurd rfl (he f)
      | tooDeep | unknownSymbol | missingPart | function => exact ⟨_, rfl⟩
    · rw [hmany] at h
      cases h
  obtain ⟨s', hrun⟩ := hrun
  rw [expandLines, List.map_singleton, replies, hrun]
  simp only
  rw [if_neg (by rw [Command.ofLine_expand hcount]; rintro ⟨⟩)]
  rfl

/-! ### Agreement -/

/-- The lines that expand the origin, counted out in some way, agree with a session that expands it as often,
has this report and lets the turn of the geist end like this. -/
structure Agrees (s : Shell) (seed : SessionSeed) (counts : List Nat) (report : Report) (o : Outcome) :
    Prop where
  reports : s.Reports seed counts.sum report
  records : report.records = [⟨s.id, o⟩]
  suggestions : report.suggestions = o.suggestions
  /-- Where all expansions succeed, the turn is completed and the lines print its suggestions. -/
  completed : ∀ texts,
    (s.expander.expandMany s.grammar counts.sum (seed.generatorFor s.id)).1 = .ok texts →
      o.stage = .completed ∧ ∃ printed : List (List Suggestion), printed.flatten = report.suggestions ∧
        s.replies (seedLines seed counts) =
          ([.text ("Seed: " ++ seed.text)] :: printed.map fun x => x.flatMap suggestionLines, none)
  /-- Where the turn failed, but not by a fault, a single line prints the kind and the message. -/
  failed : ∀ kind message, o = .failure kind message →
    (∀ f, (s.expander.expandMany s.grammar counts.sum (seed.generatorFor s.id)).1 ≠ .error (.broke f)) →
      s.replies (seedLines seed [counts.sum]) =
        ([[.text ("Seed: " ++ seed.text)], [.text ("ERROR [" ++ kind.label ++ "]: " ++ message)]], none)

/-- Expanding agrees with the sessions of the geist, from any seed and any number of times. -/
def AgreesWithSessions (s : Shell) : Prop :=
  ∀ (seed : SessionSeed) (counts : List Nat), counts.sum < UInt64.size →
    ∃ report o, s.Agrees seed counts report o

/-- Lines that only show something change no other reply, wherever they are put into a script. -/
def Undisturbed (s : Shell) : Prop :=
  ∀ script : List ScriptLine, (∀ l ∈ script, l.inserted = true → Idle s.grammar (Command.ofLine l.text)) →
    s.replies (original script) =
      (repliesToOriginal script (s.replies (script.map ScriptLine.text)).1,
        (s.replies (script.map ScriptLine.text)).2)

theorem agrees (hid : ¬Unnameable s.id) (hcounts : counts.sum < UInt64.size) :
    s.Agrees seed counts (s.reportOf seed (s.outcome seed counts.sum)) (s.outcome seed counts.sum) where
  reports := reports_iff.mpr ⟨hid, rfl⟩
  records := rfl
  suggestions := rfl
  completed := by
    intro texts h
    have ho : s.outcome seed counts.sum = .success (Suggestion.ofTexts s.id texts) := by
      rw [outcome, h]
      rfl
    obtain ⟨printed, hprinted, hreplies⟩ := replies_expandLines (s := s.startAt seed) hcounts h
    refine ⟨by rw [ho]; rfl, printed, by rw [ho]; exact hprinted, ?_⟩
    -- the line that sets the seed puts the shell where the session has the generator
    rw [replies_seedLines, hreplies]
  failed := by
    intro kind message ho hfault
    rw [replies_seedLines]
    cases hmany : (s.expander.expandMany s.grammar counts.sum (seed.generatorFor s.id)).1 with
    | ok texts =>
      rw [outcome, hmany] at ho
      cases ho
    | error e =>
      have he : ∀ f, e ≠ .broke f := by
        rintro f rfl
        exact hfault f hmany
      have hreplies := replies_expandLines_error (s := s.startAt seed) hcounts hmany he
      rw [outcome, hmany] at ho
      rw [attemptTexts_error (halt?_eq_none_of_failure ho he)] at ho
      cases ho
      rw [hreplies]

theorem nameable_of_agreesWithSessions (h : s.AgreesWithSessions) : ¬Unnameable s.id := by
  obtain ⟨report, o, ha⟩ := h s.seed [] (by decide)
  exact (reports_iff.mp ha.reports).1

theorem nameable_of_undisturbed (h : s.Undisturbed) : ¬Unnameable s.id := by
  intro hid
  have hhelp : s.replies ["help"] = ([helpLines], none) := by
    rw [replies, Command.ofLine_help]
    rfl
  -- the shell breaks off before it comes to the line that asks for help
  have hbroken : s.replies ["session", "help"] = ([], some (.unnameable s.id)) := by
    rw [replies, Command.ofLine_session, run, session_eq, if_pos hid]
    rfl
  have hscript := h [⟨"session", true⟩, ⟨"help", false⟩] (by
    intro l hl hins
    rcases List.mem_cons.mp hl with rfl | hl
    · rw [Command.ofLine_session]
      exact .session
    · cases List.mem_singleton.mp hl
      cases hins)
  have horiginal : original [⟨"session", true⟩, ⟨"help", false⟩] = ["help"] := rfl
  rw [horiginal, hhelp, List.map_cons, List.map_singleton, hbroken] at hscript
  cases hscript

/-- **When the shell agrees with the engine**: exactly when a worker can have the id of the geist as its name.
Otherwise the geist has no session at all, and the shell that is asked for one breaks off. -/
theorem agrees_iff (s : Shell) :
    (s.AgreesWithSessions ↔ ¬Unnameable s.id) ∧ (s.Undisturbed ↔ ¬Unnameable s.id) :=
  ⟨⟨nameable_of_agreesWithSessions, fun hid _ _ hcounts => ⟨_, _, agrees hid hcounts⟩⟩,
    nameable_of_undisturbed, fun hid _ h => replies_original hid h⟩

/-- A shell for a geist that always makes the same suggestion. -/
def reading (id : String) : Shell where
  id := id
  grammar := ⟨.ofList ([("note", [⟨"[[Home]]", [.literal "[[Home]]"]⟩]),
    (originSymbol, [⟨"Read #note#", [.literal "Read ", .reference "note" []]⟩])] :
      List (String × List Alternative))⟩
  count := 1
  vault := .ofNotes []
  seed := ⟨0⟩
  generator := SessionSeed.generatorFor ⟨0⟩ id

theorem expandOrigin_reading (id : String) (gen : Random.Generator) :
    ((reading id).expander.expandOrigin (reading id).grammar gen).1 = .ok "Read [[Home]]" := by
  have horigin : (reading id).grammar.alternatives? originSymbol =
    some [⟨"Read #note#", [.literal "Read ", .reference "note" []]⟩] := rfl
  have hnote : (reading id).grammar.alternatives? "note" = some [⟨"[[Home]]", [.literal "[[Home]]"]⟩] := rfl
  open Expander in
  simp only [expandOrigin, expandSymbol_eq, expandAt_singleton _ _ _ _ horigin, expander, Config.standard,
    expandAt_singleton _ _ _ _ hnote, drawing, renderTemplate_nil, renderTemplate_cons,
    renderSegment_reference, renderSegment_literal, bind_eq, named, settled]
  rfl

/-- Three expansions in two lines are the suggestions of a session; with the character of code 0 in the id there is
no such session, and a line that asks for one is not idle. -/
theorem agrees_iff_reading :
    (∃ report printed, (reading "a").Reports ⟨1⟩ 3 report ∧ List.flatten printed = report.suggestions ∧
        report.suggestions = List.replicate 3 ⟨"Read [[Home]]", ["Home"], "a", none⟩ ∧
        (reading "a").replies (seedLines ⟨1⟩ [1, 2]) =
          ([.text "Seed: 1"] :: printed.map fun x => x.flatMap suggestionLines, none)) ∧
      (reading "a").Undisturbed ∧
      ¬(reading "a\x00b").AgreesWithSessions ∧ ¬(reading "a\x00b").Undisturbed := by
  obtain ⟨hagrees, hundisturbed⟩ := agrees_iff (reading "a")
  obtain ⟨hagrees', hundisturbed'⟩ := agrees_iff (reading "a\x00b")
  have hid : ¬Unnameable (reading "a").id := by decide
  have hid' : Unnameable (reading "a\x00b").id := by decide
  obtain ⟨report, o, h⟩ := hagrees.mpr hid ⟨1⟩ [1, 2] (by decide)
  have htexts := Expander.expandMany_of_expandOrigin (expandOrigin_reading "a") 3
    (SessionSeed.generatorFor ⟨1⟩ "a")
  obtain ⟨-, printed, hprinted, hreplies⟩ := h.completed _ htexts
  have hreport : report.suggestions = List.replicate 3 ⟨"Read [[Home]]", ["Home"], "a", none⟩ := by
    have ho : (reading "a").outcome ⟨1⟩ 3 =
        .ofEnding (.of (attemptTexts "a" (.ok (List.replicate 3 "Read [[Home]]")))) :=
      congrArg (fun r => Outcome.ofEnding (.of (attemptTexts "a" r))) htexts
    have hr : report = (reading "a").reportOf ⟨1⟩ ((reading "a").outcome ⟨1⟩ 3) :=
      (reports_iff.mp h.reports).2
    rw [hr, ho]
    decide +kernel
  exact ⟨⟨report, printed, h.reports, hprinted, hreport, hreplies⟩, hundisturbed.mpr hid,
    fun hall => hagrees'.mp hall hid', fun hall => hundisturbed'.mp hall hid'⟩

/-- Not every shell agrees with the engine: a geist with a grammar that is valid is enough, when its id holds
the character with code 0. -/
theorem not_forall_agrees :
    ¬∀ (t : SymbolTable) (g : Grammar), Grammar.ofTable t = .ok g →
      ∀ (id : String) (count : Nat) (vault : Vault) (seed : SessionSeed),
        (Shell.mk id g count vault seed (seed.generatorFor id)).AgreesWithSessions ∧
          (Shell.mk id g count vault seed (seed.generatorFor id)).Undisturbed := by
  intro h
  have hparse : Template.parse "hello" = .ok [.literal "hello"] :=
    @Template.read_of_mem_printings [.literal "hello"] (by decide) none _ (by decide)
  have hvalid := Grammar.ofTable_single hparse (by decide +kernel)
  exact nameable_of_undisturbed (h _ _ hvalid "a\x00b" 1 (.ofNotes []) ⟨1⟩).2 (by decide)

end NoteMuse.Preview.Shell
