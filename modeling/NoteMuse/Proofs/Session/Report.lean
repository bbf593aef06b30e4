import Mathlib.Data.List.Sort
import NoteMuse.Proofs.Session.Turns

/-!
What a session gives, and what it leaves behind. A session has a report unless a geist is due whose id
no worker can have as its name; such a geist breaks the session off, although a geist that fails is
meant to fail alone. Main statement: `session_report_iff`.
-/

namespace NoteMuse

open Geist

/-! ### The descriptor after a turn -/

/-- How a turn with this outcome changes the descriptor of a geist that was enabled. -/
structure Geist.Descriptor.Follows (threshold : UInt32) (o : Outcome) (d d' : Descriptor) : Prop where
  id : d'.id = d.id
  kind : d'.kind = d.kind
  sourceRef : d'.sourceRef = d.sourceRef
  success : o.stage = .completed → d'.failures = 0 ∧ d'.lastError = none ∧ d'.enabled = d.enabled
  failure : o.stage ≠ .completed →
    d'.failures.toNat = min (d.failures.toNat + 1) (UInt32.size - 1) ∧
      d'.lastError = o.failureMessage? ∧ d'.enabled = decide (d'.failures < threshold)

namespace Scheduler

variable {s : Scheduler}

theorem afterTurn_of_completed {o : Outcome} (h : o.stage = .completed) (d : Descriptor) :
    s.afterTurn o d = d.recordSuccess := by
  unfold afterTurn
  rw [Outcome.failureMessage?_eq_none_iff.mpr h]

theorem afterTurn_of_failed {o : Outcome} {m : String} (h : o.failureMessage? = some m)
    (d : Descriptor) : s.afterTurn o d = (d.recordFailure m s.failureThreshold).1 := by
  unfold afterTurn
  rw [h]

theorem afterTurn_follows {d : Descriptor} (hd : d.enabled = true) (o : Outcome) :
    d.Follows s.failureThreshold o (s.afterTurn o d) := by
  cases hm : o.failureMessage? with
  | none =>
    have hc : o.stage = .completed := Outcome.failureMessage?_eq_none_iff.mp hm
    rw [afterTurn_of_completed hc]
    exact ⟨rfl, rfl, rfl, fun _ => ⟨rfl, rfl, rfl⟩, fun h => absurd hc h⟩
  | some m =>
    have hc : o.stage ≠ .completed := by
      intro hc
      rw [Outcome.failureMessage?_eq_none_iff.mpr hc] at hm
      cases hm
    rw [afterTurn_of_failed hm]
    refine ⟨rfl, rfl, rfl, fun h => absurd h hc, fun _ => ⟨toNat_oneMore _, hm.symm, ?_⟩⟩
    simp only [Descriptor.recordFailure, hd, Bool.true_and, ← UInt32.not_le, decide_not]

/-! ### The registry after a session -/

theorem session_snd (s : Scheduler) (r : Registry) (seed : SessionSeed) :
    (s.session r seed).2 = (s.progress r seed).2.registry := by
  unfold session
  split <;> next h => rw [h]

theorem session_eq_ok_iff {r : Registry} {seed : SessionSeed} {report : Report} :
    (s.session r seed).1 = .ok report ↔
      (s.progress r seed).1 = none ∧ (s.progress r seed).2.report = report := by
  unfold session
  split <;> next h => simp [h]

theorem session_eq_error_iff {r : Registry} {seed : SessionSeed} {f : Fault} :
    (s.session r seed).1 = .error f ↔ (s.progress r seed).1 = some f := by
  unfold session
  split <;> next h => simp [h]

theorem exists_reached (s : Scheduler) (r : Registry) (seed : SessionSeed) :
    ∃ done, Reached s seed r done (s.progress r seed).2 := by
  rcases progress_reached s r seed with ⟨-, h⟩ | ⟨reached, id, rest, -, -, -, -, h⟩
  · exact ⟨_, h⟩
  · exact ⟨_, h⟩

/-- The entry of a geist after a session is determined by its entry before and by its record. -/
theorem lookup?_session (s : Scheduler) (r : Registry) (seed : SessionSeed) (id : String) :
    (s.session r seed).2.lookup? id =
      (r.lookup? id).map (s.entryWith ((s.progress r seed).2.report.record? id)) := by
  obtain ⟨done, h⟩ := exists_reached s r seed
  rw [session_snd, h.entries]

theorem ids_session (s : Scheduler) (r : Registry) (seed : SessionSeed) :
    (s.session r seed).2.ids = r.ids := by
  refine (Registry.ids_pairwise _).eq_of_mem_iff (Registry.ids_pairwise _) ?_
  intro id
  rw [Registry.mem_ids, Registry.mem_ids, lookup?_session]
  cases r.lookup? id <;> simp

end Scheduler

/-! ### A band of geists -/

def Geist.Program.steady : Program := fun _ _ => pure [.ofText "Look at [[Home]]"]

/-- A program that gives up on its first turn, breaks off on the second, does not return from the third, and
has an idea on every other. -/
def Geist.Program.faltering : Program
  | 0, _ => throw (.message "no idea")
  | 1, _ => throw (.halted (.broke (.raised (some "no idea"))))
  | 2, _ => throw (.halted .hung)
  | _ + 3, _ => pure [.ofText "Still here"]

def Entry.ofProgram (id : String) (p : Program) : Entry := ⟨.new id .code ("code:" ++ id), .code p, 0⟩

/-- The geist `a` falters, after as many turns that failed, and `b` is steady; the grammar of `c` is not
valid. -/
def Registry.band (failed : Nat) : Registry :=
  let a := Entry.ofProgram "a" Program.faltering
  let c : Entry := ⟨.new "c" .grammar "c.json", .grammar none 1, 0⟩
  ((Registry.empty.put "c" c).put "b" (.ofProgram "b" Program.steady)).put "a"
    { a with descriptor := { a.descriptor with failures := failed.toUInt32 }, turns := failed }

def Scheduler.standard : Scheduler := ⟨⟨⟨.builtin, .ofNotes [], "|||"⟩, 10⟩, 3⟩

/-! ### What a session with a report has done -/

/-- What is promised of a session that began with `r` and ended with this report and `r'`. -/
structure Scheduler.Lawful (s : Scheduler) (seed : SessionSeed) (r : Registry) (report : Report)
    (r' : Registry) : Prop where
  seed_eq : report.seed = seed
  /-- There is one record for each geist that is due, … -/
  geists : report.records.map Record.geist = r.due
  /-- … in the order of the ids. -/
  ordered : (report.records.map Record.geist).Pairwise (· < ·)
  /-- The record of a geist is that of a turn on its own. -/
  invoked : ∀ record ∈ report.records, ∃ e, r.lookup? record.geist = some e ∧
    s.invoke seed record.geist e.turns e.source = .ok record
  suggestions : report.suggestions = report.records.flatMap fun r => r.outcome.suggestions
  finished : ∀ record ∈ report.records, ∀ x ∈ record.outcome.suggestions, x.Finished record.geist
  /-- A turn that failed or was given up contributes nothing. -/
  silent : ∀ record ∈ report.records, record.outcome.stage ≠ .completed →
    record.outcome.suggestions = []
  /-- The registry has the same ids as before. -/
  ids : r'.ids = r.ids
  /-- A geist without a record has its entry from before, … -/
  untouched : ∀ id, report.record? id = none → r'.lookup? id = r.lookup? id
  /-- … and one with a record its source and a descriptor that follows the outcome. -/
  followed : ∀ id record, report.record? id = some record →
    ∃ e e', r.lookup? id = some e ∧ r'.lookup? id = some e' ∧ e'.source = e.source ∧
      e'.turns = e.turns + 1 ∧
        e.descriptor.Follows s.failureThreshold record.outcome e'.descriptor

namespace Scheduler

variable {s : Scheduler} {seed : SessionSeed} {r : Registry}

theorem Reached.lawful {p : Progress} (h : Reached s seed r r.ids p)
    (hids : p.registry.ids = r.ids) : s.Lawful seed r p.report p.registry where
  seed_eq := h.seed_eq
  geists := h.geists
  ordered := by
    rw [h.geists]
    exact r.due_pairwise
  invoked := by
    intro record hr
    obtain ⟨e, he, -, hi⟩ := h.invoked record hr
    exact ⟨e, he, hi⟩
  suggestions := h.suggestions
  finished := by
    intro record hr
    obtain ⟨e, -, hd, hi⟩ := h.invoked record hr
    exact finished_of_invoke (Bool.and_eq_true_iff.mp hd).2 hi
  silent := fun record _ hs => Outcome.suggestions_eq_nil hs
  ids := hids
  untouched := by
    intro id hn
    rw [h.entries]
    unfold entryWith
    simp only [hn, Option.map_id']
  followed := by
    intro id record hr
    obtain ⟨hmem, rfl⟩ := Report.mem_of_record? hr
    obtain ⟨e, he, hd, -⟩ := h.invoked record hmem
    refine ⟨e, s.entryAfter record.outcome e, he, ?_, rfl, rfl, ?_⟩
    · rw [h.entries, he]
      unfold entryWith
      simp only [hr, Option.map_some]
    · exact afterTurn_follows (Bool.and_eq_true_iff.mp hd).1 _

/-- A geist that has a record has an id that a worker can have as its name. -/
theorem Reached.nameable {done : List String} {p : Progress} (h : Reached s seed r done p)
    {id : String} (hid : id ∈ done.filter r.isDue) : ¬Unnameable id := by
  intro hu
  rw [← h.geists] at hid
  obtain ⟨record, hmem, rfl⟩ := List.mem_map.mp hid
  obtain ⟨e, -, hd, hi⟩ := h.invoked record hmem
  have hrun : e.source.runnable = true := (Bool.and_eq_true_iff.mp hd).2
  rw [(invoke_eq_error_iff hrun).mpr ⟨hu, rfl⟩] at hi
  cases hi

theorem lawful_of_session_ok {report : Report} (h : (s.session r seed).1 = .ok report) :
    s.Lawful seed r report (s.session r seed).2 ∧ ∀ id ∈ r.due, ¬Unnameable id := by
  have hids := ids_session s r seed
  obtain ⟨hnone, rfl⟩ := session_eq_ok_iff.mp h
  rw [session_snd] at hids ⊢
  rcases progress_reached s r seed with ⟨-, hr⟩ | ⟨_, _, _, -, -, -, hsome, -⟩
  · exact ⟨hr.lawful hids, fun id hid => hr.nameable hid⟩
  · rw [hnone] at hsome
    cases hsome

/-- A session breaks off at the first geist that is due and has an id that is no name of a worker. -/
theorem session_broken {f : Fault} (h : (s.session r seed).1 = .error f) :
    ∃ id, r.due.find? (fun id => Unnameable id) = some id ∧ f = .unnameable id := by
  rw [session_eq_error_iff] at h
  rcases progress_reached s r seed with ⟨hn, -⟩ | ⟨reached, id, rest, hids, hdue, hid, hf, hr⟩
  · rw [hn] at h
    cases h
  · rw [hf] at h
    cases h
    refine ⟨id, ?_, rfl⟩
    have hpre : (reached.filter r.isDue).find? (fun id => Unnameable id) = none := by
      rw [List.find?_eq_none]
      intro x hx
      simpa using hr.nameable hx
    rw [Registry.due, hids, List.filter_append, List.filter_cons_of_pos hdue, List.find?_append,
      hpre, Option.none_or, List.find?_cons_of_pos (by simpa using hid)]

/-- **When a session keeps what it promises**: exactly when no geist is due whose id holds the character
with code 0. Otherwise it breaks off at the first such geist and has no report. -/
theorem session_report_iff (s : Scheduler) (r : Registry) (seed : SessionSeed) :
    ((∃ report, (s.session r seed).1 = .ok report ∧
        s.Lawful seed r report (s.session r seed).2) ↔ ∀ id ∈ r.due, ¬Unnameable id) ∧
      ∀ id, r.due.find? (fun id => Unnameable id) = some id →
        (s.session r seed).1 = .error (.unnameable id) := by
  have hbroken : ∀ f, (s.session r seed).1 = .error f → ∃ id ∈ r.due, Unnameable id := by
    intro f h
    obtain ⟨id, hid, -⟩ := session_broken h
    exact ⟨id, List.mem_of_find?_eq_some hid, by simpa using List.find?_some hid⟩
  -- a session has a report or breaks off, and each of them tells whether all ids are nameable
  refine ⟨⟨?_, ?_⟩, ?_⟩
  · rintro ⟨report, h, -⟩
    exact (lawful_of_session_ok h).2
  · intro hdue
    cases h : (s.session r seed).1 with
    | ok report => exact ⟨report, rfl, (lawful_of_session_ok h).1⟩
    | error f =>
      obtain ⟨id, hid, hu⟩ := hbroken f h
      exact absurd hu (hdue id hid)
  · intro id hid
    cases h : (s.session r seed).1 with
    | ok report =>
      exact absurd (by simpa using List.find?_some hid)
        ((lawful_of_session_ok h).2 id (List.mem_of_find?_eq_some hid))
    | error f =>
      obtain ⟨id', hid', rfl⟩ := session_broken h
      rw [hid] at hid'
      cases hid'
      rfl

/-- In the session after two failures the geist `a` is given up and disabled, and `b` has its suggestion. A
geist between them whose id holds the character with code 0 ends the session before the turn of `b`. -/
theorem session_report_iff_band :
    (∀ id ∈ (Registry.band 2).due, ¬Unnameable id) ∧
      (∃ report, (standard.session (.band 2) ⟨1⟩).1 = .ok report ∧
        standard.Lawful ⟨1⟩ (.band 2) report (standard.session (.band 2) ⟨1⟩).2 ∧
        report.records = [⟨"a", .timeout⟩, ⟨"b", .success [⟨"Look at [[Home]]", ["Home"], "b", none⟩]⟩]) ∧
      ((standard.session (.band 2) ⟨1⟩).2.descriptor? "a").map Descriptor.enabled = some false ∧
      (standard.session ((Registry.band 2).put "a\x00" (.ofProgram "a\x00" Program.steady)) ⟨1⟩).1 =
        .error (.unnameable "a\x00") := by
  have hdue : ∀ id ∈ (Registry.band 2).due, ¬Unnameable id := by decide
  obtain ⟨report, h, hlawful⟩ := (session_report_iff standard (.band 2) ⟨1⟩).1.mpr hdue
  have hrecords : (standard.session (.band 2) ⟨1⟩).1.toOption.map Report.records =
      some [⟨"a", .timeout⟩, ⟨"b", .success [⟨"Look at [[Home]]", ["Home"], "b", none⟩]⟩] := by
    decide +kernel
  rw [h] at hrecords
  refine ⟨hdue, ⟨report, h, hlawful, Option.some.inj hrecords⟩, by decide +kernel, ?_⟩
  exact (session_report_iff standard _ ⟨1⟩).2 "a\x00" (by decide)

/-- A due geist whose id no worker can have breaks every session off. -/
theorem session_put_unnameable (s : Scheduler) (seed : SessionSeed) (r : Registry) {id : String}
    {e : Entry} (hd : e.due = true) (hid : Unnameable id) (report : Report) :
    (s.session (r.put id e) seed).1 ≠ .ok report := by
  intro h
  have hdue : id ∈ (r.put id e).due := Registry.mem_due.mpr ⟨e, Registry.lookup?_put_self .., hd⟩
  exact (lawful_of_session_ok h).2 id hdue hid

/-- Not every session has a report: one geist whose id holds the character with code 0 is enough. -/
theorem not_forall_session_lawful :
    ¬∀ (s : Scheduler) (r : Registry) (seed : SessionSeed), ∃ report,
      (s.session r seed).1 = .ok report ∧ s.Lawful seed r report (s.session r seed).2 := by
  intro h
  obtain ⟨report, hr, -⟩ := h standard (.put .empty "a\x00b" (.ofProgram "a\x00b" Program.steady)) ⟨1⟩
  exact session_put_unnameable _ _ _ rfl (by decide) report hr

end Scheduler

end NoteMuse
