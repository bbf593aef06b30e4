import NoteMuse.Proofs.Except
import NoteMuse.Proofs.Registry.Views
import NoteMuse.Registry.Folder

/-!
Registries are filled by adding one geist after another. A geist is added under an id that is free and the
others stay as they are, so a file, or a directory of files, however these are read, adds geists with
grammars under new ids and does nothing else. Main statement: `grows_addDirectory`.
-/

namespace NoteMuse

open Geist

/-! ### Entries of grammar files -/

def Entry.valid (id path : String) (g : Grammar) (count : Nat) : Entry :=
  ⟨.new id .grammar path, .grammar (some g) count, 0⟩

/-- A geist that was just added and whose grammar is not valid; it is disabled. -/
def Entry.invalid (id path reason : String) : Entry :=
  ⟨Registry.invalidDescriptor id path reason, .grammar none 0, 0⟩

/-- The entry is that of a geist that was just added from a file. -/
inductive Entry.OfFile (id path : String) : Entry → Prop
  | valid (g : Grammar) (count : Nat) : OfFile id path (.valid id path g count)
  | invalid (reason : String) : OfFile id path (.invalid id path reason)

theorem Entry.OfFile.eq_invalid {id path : String} {e : Entry} (h : e.OfFile id path)
    (hrun : e.source.runnable = false) : ∃ reason, e = .invalid id path reason := by
  cases h with
  | valid g count => cases hrun
  | invalid reason => exact ⟨reason, rfl⟩

theorem Entry.OfFile.id_eq {id path : String} {e : Entry} (h : e.OfFile id path) : e.descriptor.id = id := by
  cases h <;> rfl

theorem Entry.OfFile.disabled {id path : String} {e : Entry} (h : e.OfFile id path)
    (hstuck : e.source.runnable = false) : e.descriptor.enabled = false := by
  obtain ⟨reason, rfl⟩ := h.eq_invalid hstuck
  rfl

/-- The id that a file asks for: the one it declares, or else its stem. -/
def GeistFile.geistId (file : GeistFile) (stem : String) : String := file.id.getD stem

/-- The geist of a file; it is enabled exactly when its grammar is valid. -/
def GeistFile.entry (file : GeistFile) (id path : String) (count : Nat) : Entry :=
  match file.grammar with
  | .ok g => .valid id path g (file.count.getD count)
  | .error e => .invalid id path e.message

theorem GeistFile.ofFile_entry (file : GeistFile) (id path : String) (count : Nat) :
    (file.entry id path count).OfFile id path := by
  unfold entry
  split
  · exact .valid _ _
  · exact .invalid _

theorem GeistFile.grammar_of_runnable {file : GeistFile} {id path : String} {count : Nat}
    (h : (file.entry id path count).source.runnable = true) : ∃ g, file.grammar = .ok g := by
  unfold entry at h
  split at h
  · next g hg => exact ⟨g, hg⟩
  · cases h

namespace Registry

variable {r r' r'' : Registry}

/-! ### One geist -/

theorem add_eq (r : Registry) (d : Descriptor) (src : Source) :
    r.add d src = if d.id ∈ r.ids then .error (.duplicate d.id) else .ok (r.put d.id ⟨d, src, 0⟩) := by
  unfold add
  simp only [contains_iff_mem_ids]

theorem add_eq_ok_iff {d : Descriptor} {src : Source} :
    r.add d src = .ok r' ↔ r.lookup? d.id = none ∧ r' = r.put d.id ⟨d, src, 0⟩ := by
  rw [add_eq, ← not_mem_ids_iff]
  split <;> simp [*, eq_comm]

theorem add_eq_error_iff {d : Descriptor} {src : Source} {c : RegistryError} :
    r.add d src = .error c ↔ d.id ∈ r.ids ∧ c = .duplicate d.id := by
  rw [add_eq]
  split <;> simp [*, eq_comm]

theorem addGrammar_eq (r : Registry) (id path : String) (g : Grammar) (count : Nat) :
    r.addGrammar id path g count =
      if id ∈ r.ids then .error (.duplicate id) else .ok (r.put id (.valid id path g count)) :=
  add_eq ..

theorem addInvalid_eq (r : Registry) (id path reason : String) :
    r.addInvalid id path reason =
      if id ∈ r.ids then .error (.duplicate id) else .ok (r.put id (.invalid id path reason)) :=
  add_eq ..

section File

variable {count : Nat} {path : String} {content : Except FileError String}

theorem addFile_of_unreadable (r : Registry) (count : Nat) {c : FileError}
    (h : GeistFile.load path content = .error (.unreadable c)) (hc : c ≠ .notText) :
    r.addFile count path content = .error (.unreadable c) := by
  unfold addFile
  simp only [h, if_neg hc]
  rfl

/-- A file that can be read and has no symbol table gives a disabled geist under its stem. -/
theorem addFile_of_unloaded (r : Registry) (count : Nat) {cause : GeistFileError}
    (h : GeistFile.load path content = .error cause) (hcause : ∀ c, cause = .unreadable c → c = .notText)
    {stem : String} (hstem : FileName.stem (Path.fileName path) = stem) :
    r.addFile count path content =
      if stem ∈ r.ids then .error (.duplicate stem)
      else .ok (r.put stem (.invalid stem path cause.message), stem) := by
  subst hstem
  have hadd := addInvalid_eq r (FileName.stem (Path.fileName path)) path cause.message
  unfold addFile
  cases cause with
  | unreadable c =>
    simp only [h, if_pos (hcause c rfl), hadd]
    split <;> rfl
  | unsupported | ron | json =>
    simp only [h, hadd]
    split <;> rfl

/-- A file without a symbol table gives a disabled geist under its stem, or it is refused since it cannot be
read. -/
theorem addFile_of_error (r : Registry) (count : Nat) {cause : GeistFileError}
    (h : GeistFile.load path content = .error cause) {stem : String}
    (hstem : FileName.stem (Path.fileName path) = stem) :
    r.addFile count path content =
        (if stem ∈ r.ids then .error (.duplicate stem)
          else .ok (r.put stem (.invalid stem path cause.message), stem)) ∨
      ∃ c, cause = .unreadable c ∧ r.addFile count path content = .error (.unreadable c) := by
  by_cases hcause : ∀ c, cause = .unreadable c → c = .notText
  · exact .inl (addFile_of_unloaded r count h hcause hstem)
  · simp only [not_forall] at hcause
    obtain ⟨c, rfl, hc⟩ := hcause
    exact .inr ⟨c, rfl, addFile_of_unreadable r count h hc⟩

theorem addFile_of_ok (r : Registry) (count : Nat) {file : GeistFile}
    (h : GeistFile.load path content = .ok file) {stem : String}
    (hstem : FileName.stem (Path.fileName path) = stem) :
    r.addFile count path content =
      if file.geistId stem ∈ r.ids then .error (.duplicate (file.geistId stem))
      else .ok (r.put (file.geistId stem) (file.entry (file.geistId stem) path count), file.geistId stem) := by
  subst hstem
  have hgrammar := addGrammar_eq r (file.geistId (FileName.stem (Path.fileName path))) path
  have hinvalid := addInvalid_eq r (file.geistId (FileName.stem (Path.fileName path))) path
  unfold GeistFile.geistId at *
  unfold addFile GeistFile.entry
  simp only [h]
  cases file.grammar with
  | ok g =>
    simp only [hgrammar]
    split <;> rfl
  | error e =>
    simp only [hinvalid]
    split <;> rfl

/-- The geist that is added from a file. It can run only if the file has a valid grammar. -/
theorem exists_put_of_addFile {id : String} (h : r.addFile count path content = .ok (r', id)) :
    r.lookup? id = none ∧ ∃ e, e.OfFile id path ∧ r' = r.put id e ∧
      (e.source.runnable = true → ∃ file g, GeistFile.load path content = .ok file ∧ file.grammar = .ok g) := by
  cases hload : GeistFile.load path content with
  | error cause =>
    rcases addFile_of_error r count hload rfl with heq | ⟨c, rfl, heq⟩
    · rw [heq] at h
      split at h
      · cases h
      · next hfree =>
        cases h
        exact ⟨not_mem_ids_iff.mp hfree, _, .invalid _, rfl, nofun⟩
    · rw [heq] at h
      cases h
  | ok file =>
    rw [addFile_of_ok r count hload rfl] at h
    split at h
    · cases h
    · next hfree =>
      cases h
      refine ⟨not_mem_ids_iff.mp hfree, _, file.ofFile_entry _ path count, rfl, fun hrun => ?_⟩
      obtain ⟨g, hg⟩ := GeistFile.grammar_of_runnable hrun
      exact ⟨file, g, rfl, hg⟩

end File

/-! ### Several geists -/

/-- How a registry with geists of files added under these ids goes with the registry before. -/
structure Grows (r : Registry) (ids : List String) (r' : Registry) : Prop where
  /-- The geists that were there are as they were. -/
  kept : ∀ id e, r.lookup? id = some e → r'.lookup? id = some e
  nodup : ids.Nodup
  fresh : ∀ id ∈ ids, r.lookup? id = none
  added : ∀ id ∈ ids, ∃ path e, e.OfFile id path ∧ r'.lookup? id = some e
  /-- No other geists were added. -/
  only : ∀ id e, r'.lookup? id = some e → id ∈ ids ∨ r.lookup? id = some e

namespace Grows

theorem refl (r : Registry) : r.Grows [] r where
  kept := fun _ _ h => h
  nodup := List.nodup_nil
  fresh := fun _ h => absurd h List.not_mem_nil
  added := fun _ h => absurd h List.not_mem_nil
  only := fun _ _ h => .inr h

theorem put {id path : String} {e : Entry} (hfree : r.lookup? id = none) (he : e.OfFile id path) :
    r.Grows [id] (r.put id e) where
  kept := fun id' e' he' => lookup?_put_of_free hfree he' e
  nodup := by simp
  fresh := by
    intro id' hid
    rwa [List.mem_singleton.mp hid]
  added := by
    intro id' hid
    rw [List.mem_singleton.mp hid]
    exact ⟨path, e, he, lookup?_put_self ..⟩
  only := by
    intro id' e' he'
    by_cases hid : id = id'
    · exact .inl (List.mem_singleton.mpr hid.symm)
    · exact .inr (by rwa [lookup?_put_of_ne hid] at he')

theorem trans {ids ids' : List String} (h : r.Grows ids r') (h' : r'.Grows ids' r'') :
    r.Grows (ids ++ ids') r'' where
  kept := fun id e he => h'.kept id e (h.kept id e he)
  nodup := by
    refine List.nodup_append.mpr ⟨h.nodup, h'.nodup, ?_⟩
    rintro id hid _ hid' rfl
    obtain ⟨-, e, -, he⟩ := h.added id hid
    rw [h'.fresh id hid'] at he
    cases he
  fresh := by
    intro id hid
    rcases List.mem_append.mp hid with hid | hid
    · exact h.fresh id hid
    · cases he : r.lookup? id with
      | none => rfl
      | some e => rw [← he, ← h'.fresh id hid, he, h.kept id e he]
  added := by
    intro id hid
    rcases List.mem_append.mp hid with hid | hid
    · obtain ⟨path, e, hfile, he⟩ := h.added id hid
      exact ⟨path, e, hfile, h'.kept id e he⟩
    · exact h'.added id hid
  only := by
    intro id e he
    rcases h'.only id e he with hid | he
    · exact .inl (List.mem_append_right _ hid)
    · exact (h.only id e he).imp_left (List.mem_append_left _)

/-- What holds of all geists, and of those that are added from files, holds of all geists afterwards. -/
theorem forall_entries {P : String → Entry → Prop} {ids : List String} (h : r.Grows ids r')
    (hr : ∀ id e, r.lookup? id = some e → P id e) (hfile : ∀ id path e, e.OfFile id path → P id e) :
    ∀ id e, r'.lookup? id = some e → P id e := by
  intro id e he
  rcases h.only id e he with hid | he
  · obtain ⟨path, e', he', hlookup⟩ := h.added id hid
    rw [he] at hlookup
    cases hlookup
    exact hfile id path e he'
  · exact hr id e he

end Grows

theorem grows_addFile {count : Nat} {path id : String} {content : Except FileError String}
    (h : r.addFile count path content = .ok (r', id)) : r.Grows [id] r' := by
  obtain ⟨hfree, e, he, rfl, -⟩ := exists_put_of_addFile h
  exact .put hfree he

theorem grows_addEntry (r : Registry) (count : Nat) (directory : String) (e : String × FileNode) :
    r.Grows (r.addEntry count directory e).2.toList (r.addEntry count directory e).1 := by
  unfold addEntry
  simp only
  split
  · next hfile => exact grows_addFile hfile
  · split
    · next hr =>
      obtain ⟨hfree, rfl⟩ := add_eq_ok_iff.mp hr
      exact .put hfree (.invalid _)
    · exact .refl r

theorem grows_addEntries (count : Nat) (directory : String) (es : List (String × FileNode))
    (r : Registry) : r.Grows (addEntries count directory r es).2 (addEntries count directory r es).1 := by
  induction es generalizing r with
  | nil => exact .refl r
  | cons e es ih => exact (grows_addEntry r count directory e).trans (ih _)

/-- **What a directory adds** are geists of files, under the ids that are given back. -/
theorem grows_addDirectory {count : Nat} {path : String} {ids : List String}
    {content : Except FileError (List (String × FileNode))}
    (h : r.addDirectory count path content = .ok (r', ids)) : r.Grows ids r' := by
  unfold addDirectory at h
  split at h
  · cases h
  · next entries =>
    obtain ⟨rfl, rfl⟩ := Prod.mk.inj (Except.ok.inj h)
    exact grows_addEntries count path _ r

end Registry

end NoteMuse
