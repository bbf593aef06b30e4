import NoteMuse.Proofs.Registry.Filling
import NoteMuse.Proofs.Session.Alike

/-!
All that can be done with a registry. Whatever is done, every geist stays registered with its source, and
only what a state file keeps of its descriptor can change, and only if it can run. So a geist whose grammar
was not valid when it was added is never heard of again. Main statements: `becomes_run`, `silent_run`.
-/

namespace NoteMuse

open Geist

/-- What is done with a registry. -/
inductive Operation where
  | addGrammar (id sourceRef : String) (g : Grammar) (count : Nat)
  | addInvalid (id sourceRef reason : String)
  | addCode (id : String) (p : Program)
  | addFile (count : Nat) (path : String) (content : Except FileError String)
  | addDirectory (count : Nat) (path : String) (content : Except FileError (List (String × FileNode)))
  | reset (id : String)
  | restore (states : List SavedGeist)
  | load (content : Except FileError String)
  | session (s : Scheduler) (seed : SessionSeed)

namespace Registry

/-- The registry that an operation gives, unless it refuses. A session that breaks off keeps the turns that
are over. -/
def perform (r : Registry) : Operation → Except RegistryError Registry
  | .addGrammar id sourceRef g count => r.addGrammar id sourceRef g count
  | .addInvalid id sourceRef reason => r.addInvalid id sourceRef reason
  | .addCode id p => r.addCode id p
  | .addFile count path content => (r.addFile count path content).map Prod.fst
  | .addDirectory count path content => (r.addDirectory count path content).map Prod.fst
  | .reset id => r.reset id
  | .restore states => .ok (r.restore states).1
  | .load content => (r.load content).map Prod.fst
  | .session s seed => .ok (s.session r seed).2

/-- The registry after an operation; nothing is done by one that refuses. -/
def after (r : Registry) (op : Operation) : Registry :=
  match r.perform op with
  | .ok r' => r'
  | .error _ => r

/-- The registry after operations, one after another. -/
def run (r : Registry) (ops : List Operation) : Registry := ops.foldl after r

/-! ### What geists become -/

section Steps

variable {r r' : Registry} {id : String} {e : Entry}

theorem becomes_of_kept (h : ∀ id e, r.lookup? id = some e → r'.lookup? id = some e)
    (he : r.lookup? id = some e) : ∃ e', r'.lookup? id = some e' ∧ e.Becomes e' :=
  ⟨e, h id e he, .refl e⟩

theorem becomes_add {d : Descriptor} {src : Source} (h : r.add d src = .ok r')
    (he : r.lookup? id = some e) : ∃ e', r'.lookup? id = some e' ∧ e.Becomes e' := by
  obtain ⟨hfree, rfl⟩ := add_eq_ok_iff.mp h
  exact becomes_of_kept (fun _ _ h => lookup?_put_of_free hfree h _) he

theorem becomes_restored (h : e.source.runnable = true) : e.Becomes e.restored :=
  ⟨rfl, rfl, rfl, rfl, fun hstuck => absurd (h.symm.trans hstuck) (by decide)⟩

theorem becomes_reset {id' : String} (h : r.reset id' = .ok r') (he : r.lookup? id = some e) :
    ∃ e', r'.lookup? id = some e' ∧ e.Becomes e' := by
  obtain ⟨x, hx, hrun, rfl⟩ := reset_eq_ok_iff.mp h
  by_cases hid : id' = id
  · subst hid
    rw [he] at hx
    cases hx
    exact ⟨e.restored, lookup?_put_self .., becomes_restored hrun⟩
  · exact ⟨e, by rwa [lookup?_put_of_ne hid], .refl e⟩

theorem becomes_after (he : r.lookup? id = some e) (op : Operation) :
    ∃ e', (r.after op).lookup? id = some e' ∧ e.Becomes e' := by
  unfold after
  cases h : r.perform op with
  | error c => exact ⟨e, he, .refl e⟩
  | ok r' =>
    cases op with
    | addGrammar | addInvalid | addCode => exact becomes_add h he
    | addFile count path content =>
      obtain ⟨p, hp, rfl⟩ := map_eq_ok_iff.mp h
      exact becomes_of_kept (grows_addFile hp).kept he
    | addDirectory count path content =>
      obtain ⟨p, hp, rfl⟩ := map_eq_ok_iff.mp h
      exact becomes_of_kept (grows_addDirectory hp).kept he
    | reset id' => exact becomes_reset h he
    | restore states =>
      cases h
      exact ((Becomes.refl r).restore states).exists_later he
    | load content =>
      obtain ⟨p, hp, rfl⟩ := map_eq_ok_iff.mp h
      exact (becomes_load hp).exists_later he
    | session s seed =>
      cases h
      exact (Scheduler.becomes_session (.refl r) s seed).exists_later he

/-- **What operations make of a geist**, in whatever order they come. -/
theorem becomes_run (he : r.lookup? id = some e) (ops : List Operation) :
    ∃ e', (r.run ops).lookup? id = some e' ∧ e.Becomes e' := by
  induction ops generalizing r e with
  | nil => exact ⟨e, he, .refl e⟩
  | cons op ops ih =>
    obtain ⟨e₁, he₁, hfirst⟩ := becomes_after he op
    obtain ⟨e₂, he₂, hrest⟩ := ih he₁
    exact ⟨e₂, he₂, hfirst.trans hrest⟩

end Steps

/-! ### Geists without a valid grammar -/

/-- The registry just after a geist was added whose grammar is not valid: by itself, from a file that holds
no valid grammar, or from such a file of a directory. -/
inductive AddedInvalid (id : String) : Registry → Prop
  | direct {r r' : Registry} {sourceRef reason : String} (h : r.addInvalid id sourceRef reason = .ok r') :
    AddedInvalid id r'
  | file {r r' : Registry} {count : Nat} {path : String} {content : Except FileError String}
    (h : r.addFile count path content = .ok (r', id))
    (hfile : ∀ file g, GeistFile.load path content = .ok file → file.grammar ≠ .ok g) : AddedInvalid id r'
  | directory {r r' : Registry} {count : Nat} {path : String} {ids : List String}
    {content : Except FileError (List (String × FileNode))}
    (h : r.addDirectory count path content = .ok (r', ids)) (hid : id ∈ ids)
    (hstuck : ∃ src, r'.source? id = some src ∧ src.runnable = false) : AddedInvalid id r'

/-- How a geist stands whose grammar was not valid. -/
structure Silent (id sourceRef reason : String) (r : Registry) : Prop where
  descriptor : r.descriptor? id =
    some ⟨id, .grammar, sourceRef, false, 0, some ("validation: " ++ reason)⟩
  source : ∃ src, r.source? id = some src ∧ src.runnable = false
  reset : r.reset id = .error (.invalidGrammar id)
  /-- It has no part in any session. -/
  unheard : ∀ (s : Scheduler) seed report, (s.session r seed).1 = .ok report →
    report.record? id = none ∧ ∀ x ∈ report.suggestions, x.geist ≠ id
  /-- What is kept of it is passed over and not counted. -/
  uncounted : ∀ states, r.restore (states.filter fun s => s.id ≠ id) = r.restore states

section Silent

variable {r : Registry} {id sourceRef reason : String}

theorem AddedInvalid.exists_entry (h : AddedInvalid id r) :
    ∃ sourceRef reason, r.lookup? id = some (.invalid id sourceRef reason) := by
  cases h with
  | @direct r r' sourceRef reason h =>
    obtain ⟨-, rfl⟩ := add_eq_ok_iff.mp h
    exact ⟨sourceRef, reason, lookup?_put_self ..⟩
  | @file r r' count path content h hfile =>
    obtain ⟨-, e, he, rfl, hgrammar⟩ := exists_put_of_addFile h
    have hstuck : e.source.runnable = false := by
      rw [Bool.eq_false_iff]
      intro hrun
      obtain ⟨file, g, hload, hg⟩ := hgrammar hrun
      exact hfile file g hload hg
    obtain ⟨reason, rfl⟩ := he.eq_invalid hstuck
    exact ⟨path, reason, lookup?_put_self ..⟩
  | directory h hid hstuck =>
    obtain ⟨path, e, he, hlookup⟩ := (grows_addDirectory h).added id hid
    obtain ⟨src, hsrc, hrun⟩ := hstuck
    rw [source?, hlookup] at hsrc
    cases hsrc
    obtain ⟨reason, rfl⟩ := he.eq_invalid hrun
    exact ⟨path, reason, hlookup⟩

theorem unheard_of_stuck {e : Entry} (he : r.lookup? id = some e) (hstuck : e.source.runnable = false)
    {s : Scheduler} {seed : SessionSeed} {report : Report} (h : (s.session r seed).1 = .ok report) :
    report.record? id = none ∧ ∀ x ∈ report.suggestions, x.geist ≠ id := by
  obtain ⟨hlawful, -⟩ := Scheduler.lawful_of_session_ok h
  have hnone : id ∉ report.records.map Record.geist := by
    rw [hlawful.geists, mem_due]
    rintro ⟨e', he', hdue⟩
    rw [he] at he'
    cases he'
    rw [Entry.due, hstuck, Bool.and_false] at hdue
    cases hdue
  refine ⟨Report.record?_eq_none_iff.mpr hnone, fun x hx hgeist => hnone ?_⟩
  rw [hlawful.suggestions, List.mem_flatMap] at hx
  obtain ⟨record, hrecord, hx⟩ := hx
  rw [← hgeist, (hlawful.finished record hrecord x hx).geist]
  exact List.mem_map_of_mem hrecord

/-- A geist stands like this as long as its entry shows what it showed when it was added. -/
theorem silent_of_becomes {e : Entry} (he : r.lookup? id = some e)
    (h : (Entry.invalid id sourceRef reason).Becomes e) : Silent id sourceRef reason r := by
  have hstuck : e.source.runnable = false := by rw [h.source]; rfl
  constructor
  case descriptor =>
    rw [descriptor?, he, Option.map_some, h.stuck rfl]
    rfl
  case source => exact ⟨e.source, by rw [source?, he]; rfl, hstuck⟩
  case reset => simp [Registry.reset, he, hstuck]
  case unheard => exact fun s seed report hok => unheard_of_stuck he hstuck hok
  case uncounted => exact restore_filter he hstuck

end Silent

/-- **A geist whose grammar was not valid is silent for ever**: whatever is done after it was added, it stands
as it stood then. -/
theorem silent_run {r : Registry} {id : String} (h : AddedInvalid id r) :
    ∃ sourceRef reason, ∀ ops, Silent id sourceRef reason (r.run ops) := by
  obtain ⟨sourceRef, reason, he⟩ := h.exists_entry
  refine ⟨sourceRef, reason, fun ops => ?_⟩
  obtain ⟨e, he, hbecomes⟩ := becomes_run he ops
  exact silent_of_becomes he hbecomes

/-- A geist that is added to no others. -/
theorem silent_run_alone :
    AddedInvalid "x" (empty.put "x" (.invalid "x" "inline" "no origin")) ∧
      ∃ sourceRef reason, ∀ ops,
        Silent "x" sourceRef reason ((empty.put "x" (.invalid "x" "inline" "no origin")).run ops) := by
  have h : AddedInvalid "x" (empty.put "x" (.invalid "x" "inline" "no origin")) :=
    .direct ((addInvalid_eq ..).trans (if_neg not_mem_ids_empty))
  exact ⟨h, silent_run h⟩

end Registry

end NoteMuse
