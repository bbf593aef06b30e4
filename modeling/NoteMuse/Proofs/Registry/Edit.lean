import NoteMuse.Proofs.Session.Operation
import NoteMuse.Registry.Edit

/-!
Registries that are changed in place. An edit is cut short where it refuses, and nothing undoes what was done before;
all the same a registry whose edit was refused is as it was, since each edit refuses before it writes. Main statement:
`edits_atomic`.
-/

namespace NoteMuse.Registry

open Geist

/-! ### Edits and their results -/

namespace Edit

variable {α : Type} {r : Registry}

/-- How an edit ends that either does all that it does or nothing. -/
def settled (r : Registry) : Except RegistryError (Registry × α) → EStateM.Result RegistryError Registry α
  | .ok (r', a) => .ok a r'
  | .error e => .error e r

/-- How an edit ends that either puts a registry in the place of the one before or does nothing. -/
abbrev settledUnit (r : Registry) (x : Except RegistryError Registry) : EStateM.Result RegistryError Registry Unit :=
  settled r (x.map (·, ()))

lemma settled_eq_error_iff {x : Except RegistryError (Registry × α)} {c : RegistryError} {r' : Registry} :
    settled r x = .error c r' ↔ x = .error c ∧ r' = r := by
  cases x <;> simp [settled, eq_comm]

lemma run_then_return {x : Edit Unit} {y : Except RegistryError Registry} (h : x.run r = settledUnit r y) (a : α) :
    (x >>= fun _ => pure a).run r = settled r (y.map (·, a)) := by
  rw [EStateM.run_bind, h]
  cases y <;> rfl

/-- What was done before an edit was refused stays done. -/
theorem run_tryCatch (x : Edit α) (f : RegistryError → Edit α) (r : Registry) :
    (tryCatch x f).run r = match x.run r with | .ok a r' => .ok a r' | .error c r' => (f c).run r' := by
  show EStateM.tryCatch x f r = _
  unfold EStateM.tryCatch EStateM.run
  cases x r <;> rfl

lemma run_add (d : Descriptor) (src : Source) (r : Registry) :
    (add d src).run r = settledUnit r (r.add d src) := by
  unfold add Registry.add
  rw [EStateM.run_bind, EStateM.run_get]
  by_cases htaken : r.entries.contains d.id
  · simp only [if_pos htaken]
    rfl
  · simp only [if_neg htaken]
    rfl

lemma run_addGrammar (id path : String) (g : Grammar) (count : Nat) (r : Registry) :
    (addGrammar id path g count).run r = settledUnit r (r.addGrammar id path g count) := run_add ..

lemma run_addInvalid (id path reason : String) (r : Registry) :
    (addInvalid id path reason).run r = settledUnit r (r.addInvalid id path reason) := run_add ..

lemma run_addCode (id : String) (p : Program) (r : Registry) :
    (addCode id p).run r = settledUnit r (r.addCode id p) := run_add ..

lemma run_addFile (count : Nat) (path : String) (content : Except FileError String) (r : Registry) :
    (addFile count path content).run r = settled r (r.addFile count path content) := by
  unfold addFile Registry.addFile
  cases GeistFile.load path content with
  | error cause =>
    cases cause with
    | unreadable e =>
      by_cases he : e = .notText
      · simp only [if_pos he, if_neg (not_not_intro he)]
        exact run_then_return (run_addInvalid ..) _
      · simp only [if_neg he, if_pos (show e ≠ .notText from he)]
        rfl
    | unsupported | ron | json => exact run_then_return (run_addInvalid ..) _
  | ok file =>
    cases hgrammar : file.grammar with
    | ok g =>
      simp only [hgrammar]
      exact run_then_return (run_addGrammar ..) _
    | error e =>
      simp only [hgrammar]
      exact run_then_return (run_addInvalid ..) _

/-- **An entry of a directory is never refused**: its fallback is added only under an id that is free. -/
theorem run_addEntry (count : Nat) (directory : String) (e : String × FileNode) (r : Registry) :
    (addEntry count directory e).run r = .ok (r.addEntry count directory e).2 (r.addEntry count directory e).1 := by
  unfold addEntry Registry.addEntry
  simp only [run_tryCatch, ← bind_pure_comp, EStateM.run_bind, run_addFile]
  cases r.addFile count (Path.join directory e.1) e.2.readText with
  | ok p => rfl
  | error cause =>
    simp only [settled, EStateM.run_get, contains_iff_mem_ids]
    by_cases htaken : FileName.stem e.1 ∈ r.ids
    · simp only [if_pos htaken, addInvalid_eq]
      rfl
    · simp only [if_neg htaken, EStateM.run_bind, run_addInvalid, addInvalid_eq]
      rfl

lemma run_addEntries (count : Nat) (directory : String) (es : List (String × FileNode)) (r : Registry) :
    (addEntries count directory es).run r =
      .ok (Registry.addEntries count directory r es).2 (Registry.addEntries count directory r es).1 := by
  induction es generalizing r with
  | nil => rfl
  | cons e es ih =>
    unfold addEntries
    rw [EStateM.run_bind, run_addEntry]
    simp only
    rw [EStateM.run_bind, ih]
    rfl

lemma run_addDirectory (count : Nat) (path : String) (content : Except FileError (List (String × FileNode)))
    (r : Registry) : (addDirectory count path content).run r = settled r (r.addDirectory count path content) := by
  unfold addDirectory Registry.addDirectory
  cases content with
  | error e => rfl
  | ok entries => exact run_addEntries ..

lemma run_reset (id : String) (r : Registry) : (reset id).run r = settledUnit r (r.reset id) := by
  unfold reset Registry.reset
  rw [EStateM.run_bind, EStateM.run_get]
  cases he : r.lookup? id with
  | none =>
    simp only [he]
    rfl
  | some e =>
    simp only [he]
    cases e.source.runnable <;> rfl

lemma run_restoreOne (s : SavedGeist) (r : Registry) :
    (restoreOne s).run r = .ok (r.restoreOne s).2 (r.restoreOne s).1 := by
  unfold restoreOne Registry.restoreOne
  rw [EStateM.run_bind, EStateM.run_get]
  cases he : r.lookup? s.id with
  | none =>
    simp only [he]
    rfl
  | some e =>
    simp only [he]
    cases e.source.runnable <;> rfl

theorem run_restore (states : List SavedGeist) (r : Registry) :
    (restore states).run r = .ok (r.restore states).2 (r.restore states).1 := by
  induction states generalizing r with
  | nil => rfl
  | cons s states ih =>
    unfold restore
    rw [EStateM.run_bind, run_restoreOne]
    simp only
    rw [EStateM.run_bind, ih]
    rfl

lemma run_load (content : Except FileError String) (r : Registry) :
    (load content).run r = settled r (r.load content) := by
  unfold load Registry.load
  cases content with
  | error e => cases e <;> rfl
  | ok text =>
    cases hstates : Format.Ron.decode (fun d => d.list (SavedGeist.decoder d)) text with
    | error e =>
      simp only [hstates]
      rfl
    | ok states =>
      simp only [hstates]
      exact run_restore ..

/-! ### All that can be done -/

def perform : Operation → Edit Unit
  | .addGrammar id sourceRef g count => addGrammar id sourceRef g count
  | .addInvalid id sourceRef reason => addInvalid id sourceRef reason
  | .addCode id p => addCode id p
  | .addFile count path content => discard (addFile count path content)
  | .addDirectory count path content => discard (addDirectory count path content)
  | .reset id => reset id
  | .restore states => discard (restore states)
  | .load content => discard (load content)
  | .session s seed => modify fun r => (s.session r seed).2

lemma run_discard {x : Edit α} {y : Except RegistryError (Registry × α)} (h : x.run r = settled r y) :
    (discard x).run r = settledUnit r (y.map Prod.fst) := by
  have hbind : discard x = x >>= fun _ => pure () := (bind_pure_comp (fun _ => ()) x).symm
  rw [hbind, EStateM.run_bind, h]
  cases y <;> rfl

/-- **An operation in place does what it does by itself**, or nothing when it refuses. -/
theorem run_perform (op : Operation) (r : Registry) : (perform op).run r = settledUnit r (r.perform op) := by
  cases op with
  | addGrammar => exact run_addGrammar ..
  | addInvalid => exact run_addInvalid ..
  | addCode => exact run_addCode ..
  | addFile count path content => exact run_discard (run_addFile ..)
  | addDirectory count path content => exact run_discard (run_addDirectory ..)
  | reset id => exact run_reset ..
  | restore states => exact run_discard (y := .ok (r.restore states)) (run_restore ..)
  | load content => exact run_discard (run_load ..)
  | session s seed => rfl

/-- The registry in its place after an edit, whether it was refused or not. -/
def after (x : Edit α) (r : Registry) : Registry :=
  match x.run r with
  | .ok _ r' => r'
  | .error _ r' => r'

lemma after_perform (op : Operation) (r : Registry) : (perform op).after r = r.after op := by
  unfold after Registry.after
  rw [run_perform]
  cases r.perform op <;> rfl

end Edit

/-! ### Refusals -/

/-- The operation asks for an id for the one geist that it adds. A file without a symbol table asks for its stem. -/
inductive AsksFor : Operation → String → Prop
  | grammar {id sourceRef : String} {g : Grammar} {count : Nat} : AsksFor (.addGrammar id sourceRef g count) id
  | invalid {id sourceRef reason : String} : AsksFor (.addInvalid id sourceRef reason) id
  | code {id : String} {p : Program} : AsksFor (.addCode id p) id
  | file {count : Nat} {path : String} {content : Except FileError String} {file : GeistFile}
    (h : GeistFile.load path content = .ok file) :
    AsksFor (.addFile count path content) (file.geistId (FileName.stem (Path.fileName path)))
  | stem {count : Nat} {path : String} {content : Except FileError String} {cause : GeistFileError}
    (h : GeistFile.load path content = .error cause) (hread : ∀ c, content = .error c → c = .notText) :
    AsksFor (.addFile count path content) (FileName.stem (Path.fileName path))

/-- What is refused, and why. -/
inductive Rejects (r : Registry) : Operation → RegistryError → Prop
  | taken {op : Operation} {id : String} (h : AsksFor op id) (htaken : id ∈ r.ids) : Rejects r op (.duplicate id)
  | unreadableFile {count : Nat} {path : String} {c : FileError} (hc : c ≠ .notText) :
    Rejects r (.addFile count path (.error c)) (.unreadable c)
  | unreadableDirectory {count : Nat} {path : String} {c : FileError} :
    Rejects r (.addDirectory count path (.error c)) (.unreadable c)
  | unknown {id : String} (hfree : id ∉ r.ids) : Rejects r (.reset id) (.notFound id)
  | stuck {id : String} {e : Entry} (he : r.lookup? id = some e) (hstuck : e.source.runnable = false) :
    Rejects r (.reset id) (.invalidGrammar id)
  | unreadableState {c : FileError} (hfile : c ≠ .notFound) (hdirectory : c ≠ .notADirectory) :
    Rejects r (.load (.error c)) (.unreadable c)
  /-- However much of the text could be read before. -/
  | malformedState {text : String} {e : Format.FormatError}
    (h : Format.Ron.decode (fun d => d.list (SavedGeist.decoder d)) text = .error e) :
    Rejects r (.load (.ok text)) (.ron e)

section Rejects

variable {r : Registry} {c : RegistryError} {op : Operation}

lemma load_eq_unreadable_iff {path : String} {content : Except FileError String} {c : FileError} :
    GeistFile.load path content = .error (.unreadable c) ↔ content = .error c := by
  unfold GeistFile.load
  cases content with
  | error e => simp [Except.mapError, bind, Except.bind]
  | ok text =>
    simp only [Except.mapError, bind, Except.bind, reduceCtorEq, iff_false]
    split
    · simp [GeistFile.ofRon, mapError_eq_error_iff]
    · simp [GeistFile.ofJson, mapError_eq_error_iff]
    · exact nofun

lemma rejects_of_addFile {count : Nat} {path : String} {content : Except FileError String}
    (h : r.addFile count path content = .error c) : r.Rejects (.addFile count path content) c := by
  cases hload : GeistFile.load path content with
  | ok file =>
    rw [addFile_of_ok r count hload rfl] at h
    split at h
    · next htaken =>
      cases h
      exact .taken (.file hload) htaken
    · cases h
  | error cause =>
    by_cases hread : ∀ c, cause = .unreadable c → c = .notText
    · rw [addFile_of_unloaded r count hload hread rfl] at h
      split at h
      · next htaken =>
        cases h
        refine .taken (.stem hload fun c hc => hread c ?_) htaken
        rw [load_eq_unreadable_iff.mpr hc] at hload
        exact (Except.error.inj hload).symm
      · cases h
    · simp only [not_forall] at hread
      obtain ⟨c, rfl, hc⟩ := hread
      rw [addFile_of_unreadable r count hload hc] at h
      cases h
      obtain rfl := load_eq_unreadable_iff.mp hload
      exact .unreadableFile hc

lemma rejects_of_reset {id : String} (h : r.reset id = .error c) : r.Rejects (.reset id) c := by
  unfold reset at h
  split at h
  · next hfree =>
    cases h
    exact .unknown (not_mem_ids_iff.mpr hfree)
  · next e he =>
    split at h
    · cases h
    · next hstuck =>
      cases h
      exact .stuck he (Bool.eq_false_iff.mpr hstuck)

lemma rejects_of_load {content : Except FileError String} (h : r.load content = .error c) :
    r.Rejects (.load content) c := by
  unfold load at h
  split at h
  · cases h
  · cases h
  · next hfile hdirectory =>
    cases h
    exact .unreadableState hfile hdirectory
  · split at h
    · cases h
    · next hdecode =>
      cases h
      exact .malformedState hdecode

lemma rejects_of_perform (h : r.perform op = .error c) : r.Rejects op c := by
  cases op with
  | addGrammar | addInvalid | addCode =>
    obtain ⟨htaken, rfl⟩ := add_eq_error_iff.mp h
    exact .taken (by constructor) htaken
  | addFile count path content => exact rejects_of_addFile (map_eq_error_iff.mp h)
  | addDirectory count path content =>
    cases content with
    | error c =>
      cases h
      exact .unreadableDirectory
    | ok entries => cases h
  | reset id => exact rejects_of_reset h
  | restore states => cases h
  | load content => exact rejects_of_load (map_eq_error_iff.mp h)
  | session s seed => cases h

lemma perform_of_asksFor {id : String} (h : AsksFor op id) (htaken : id ∈ r.ids) :
    r.perform op = .error (.duplicate id) := by
  cases h with
  | grammar | invalid | code => exact add_eq_error_iff.mpr ⟨htaken, rfl⟩
  | file hload => exact map_eq_error_iff.mpr ((addFile_of_ok r _ hload rfl).trans (if_pos htaken))
  | stem hload hread =>
    refine map_eq_error_iff.mpr ((addFile_of_unloaded r _ hload ?_ rfl).trans (if_pos htaken))
    rintro c rfl
    exact hread c (load_eq_unreadable_iff.mp hload)

lemma perform_of_rejects (h : r.Rejects op c) : r.perform op = .error c := by
  cases h with
  | taken hasks htaken => exact perform_of_asksFor hasks htaken
  | unreadableFile hc => exact map_eq_error_iff.mpr (addFile_of_unreadable r _ (load_eq_unreadable_iff.mpr rfl) hc)
  | unreadableDirectory => rfl
  | unknown hfree => simp only [perform, reset, not_mem_ids_iff.mp hfree]
  | stuck he hstuck => simp [perform, reset, he, hstuck]
  | @unreadableState c hfile hdirectory => cases c <;> first | contradiction | rfl
  | malformedState hdecode => simp only [perform, load, hdecode, Except.map]

/-- **The refusals** are these, and each has its cause. -/
theorem perform_eq_error_iff : r.perform op = .error c ↔ r.Rejects op c :=
  ⟨rejects_of_perform, perform_of_rejects⟩

end Rejects

/-! ### What edits keep up -/

/-- Every geist is registered under its own id, and none is enabled that cannot run. -/
structure WellKept (r : Registry) : Prop where
  keyed : r.Keyed
  disabled : ∀ id e, r.lookup? id = some e → e.source.runnable = false → e.descriptor.enabled = false

section WellKept

variable {r r' : Registry} {id : String} {e : Entry}

theorem wellKept_empty : empty.WellKept := by
  refine ⟨fun id e he => ?_, fun id e he => ?_⟩ <;> rw [lookup?_empty] at he <;> cases he

theorem WellKept.put (h : r.WellKept) (hid : e.descriptor.id = id)
    (hstuck : e.source.runnable = false → e.descriptor.enabled = false) : (r.put id e).WellKept where
  keyed := forall_put h.keyed hid
  disabled := forall_put (P := fun _ e => e.source.runnable = false → e.descriptor.enabled = false) h.disabled hstuck

theorem WellKept.becomes (h : r.WellKept) (hb : r.Becomes r') : r'.WellKept where
  keyed := h.keyed.of_becomes hb
  disabled := by
    intro id e he hstuck
    obtain ⟨e₀, he₀, hbecomes⟩ := hb.exists_entry he
    rw [hbecomes.source] at hstuck
    rw [hbecomes.stuck hstuck, h.disabled id e₀ he₀ hstuck]

theorem WellKept.grows {ids : List String} (h : r.WellKept) (hg : r.Grows ids r') : r'.WellKept where
  keyed := hg.forall_entries h.keyed fun _ _ _ he => he.id_eq
  disabled := hg.forall_entries h.disabled fun _ _ _ he => he.disabled

theorem WellKept.add {d : Descriptor} {src : Source} (h : r.WellKept)
    (hstuck : src.runnable = false → d.enabled = false) (hr' : r.add d src = .ok r') : r'.WellKept := by
  obtain ⟨-, rfl⟩ := add_eq_ok_iff.mp hr'
  exact h.put rfl hstuck

theorem WellKept.reset (h : r.WellKept) (hr' : r.reset id = .ok r') : r'.WellKept := by
  obtain ⟨e, he, hrun, rfl⟩ := reset_eq_ok_iff.mp hr'
  exact h.put (h.keyed id e he) fun hstuck => absurd (hrun.symm.trans hstuck) (by decide)

/-- What an operation keeps up that is not refused. -/
theorem WellKept.perform {op : Operation} (h : r.WellKept) (hr' : r.perform op = .ok r') : r'.WellKept := by
  cases op with
  | addGrammar | addCode =>
    refine h.add ?_ hr'
    nofun
  | addInvalid => exact h.add (fun _ => rfl) hr'
  | addFile count path content =>
    obtain ⟨p, hp, rfl⟩ := map_eq_ok_iff.mp hr'
    exact h.grows (grows_addFile hp)
  | addDirectory count path content =>
    obtain ⟨p, hp, rfl⟩ := map_eq_ok_iff.mp hr'
    exact h.grows (grows_addDirectory hp)
  | reset id => exact h.reset hr'
  | restore states =>
    cases hr'
    exact h.becomes ((Becomes.refl r).restore states)
  | load content =>
    obtain ⟨p, hp, rfl⟩ := map_eq_ok_iff.mp hr'
    exact h.becomes (becomes_load hp)
  | session s seed =>
    cases hr'
    exact h.becomes (Scheduler.becomes_session (.refl r) s seed)

theorem WellKept.after (h : r.WellKept) (op : Operation) : (r.after op).WellKept := by
  unfold Registry.after
  split
  · next hr' => exact h.perform hr'
  · exact h

end WellKept

/-- **Edits do all or nothing.** They are refused for the causes of `Rejects` alone, and what was refused has left the
registry as it was. Every edit, refused or not, leaves a registry well kept that was so before, and so every registry is
well kept that was empty at first. -/
theorem edits_atomic :
    (∀ r op c r', (Edit.perform op).run r = .error c r' ↔ r.Rejects op c ∧ r' = r) ∧
    (∀ r op, r.WellKept → ((Edit.perform op).after r).WellKept) ∧
    ∀ ops : List Operation, (ops.foldl (fun r op => (Edit.perform op).after r) .empty).WellKept := by
  have hafter : ∀ r op, r.WellKept → ((Edit.perform op).after r).WellKept := by
    intro r op h
    rw [Edit.after_perform]
    exact h.after op
  refine ⟨?_, hafter, ?_⟩
  · intro r op c r'
    rw [Edit.run_perform, Edit.settled_eq_error_iff, map_eq_error_iff, perform_eq_error_iff]
  · exact fun ops => List.foldlRecOn ops _ wellKept_empty fun r h op _ => hafter r op h

def oneIdle : Registry := empty.put "x" ⟨.new "x" .code "code:x", .code fun _ _ => pure [], 0⟩

/-- A text that keeps a geist well formed, and after it one that is not. -/
def halfFormed : String := "[(id:(\"x\"),enabled:false,consecutive_failures:1),(id:(\"y\"))]"

/-- A state file that is refused at its second geist. -/
theorem edits_atomic_half_formed :
    (∃ c, oneIdle.Rejects (.load (.ok halfFormed)) c ∧
      (Edit.perform (.load (.ok halfFormed))).run oneIdle = .error c oneIdle) ∧
    oneIdle.WellKept ∧ ((Edit.perform (.load (.ok halfFormed))).after oneIdle).WellKept := by
  have hkept : oneIdle.WellKept := wellKept_empty.put rfl nofun
  refine ⟨?_, hkept, edits_atomic.2.1 _ _ hkept⟩
  cases hdecode : Format.Ron.decode (fun d => d.list (SavedGeist.decoder d)) halfFormed with
  | error e =>
    have hrejects : oneIdle.Rejects (.load (.ok halfFormed)) (.ron e) := .malformedState hdecode
    exact ⟨.ron e, hrejects, (edits_atomic.1 _ _ _ _).mpr ⟨hrejects, rfl⟩⟩
  | ok states =>
    have hfails : (Format.Ron.decode (fun d => d.list (SavedGeist.decoder d)) halfFormed).isOk = false := by
      decide +kernel
    rw [hdecode] at hfails
    cases hfails

end NoteMuse.Registry
