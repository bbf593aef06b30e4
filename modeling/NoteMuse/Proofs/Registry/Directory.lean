import Mathlib.Data.List.ReduceOption
import NoteMuse.Proofs.Files
import NoteMuse.Proofs.Registry.Filling

/-!
Directories of grammar files. Whatever the files of a directory hold, the directory is loaded: each file gives
the geist it asks for, or else a disabled one under its stem, or none when the stem is taken too. What a file
gives depends on the registry at its turn, so a directory is followed file by file. Main statement:
`addDirectory_loads`.
-/

namespace NoteMuse.Registry

/-! ### What a file gives -/

/-- Why a file gives no geist of its own, from its path, its stem and what reading it gives. -/
inductive Refuses (r : Registry) (path stem : String) (content : Except FileError String) : String → Prop
  /-- It cannot be read, is no text, or holds no symbol table. -/
  | unloaded {cause : GeistFileError} (h : GeistFile.load path content = .error cause) :
    Refuses r path stem content cause.message
  /-- The id that it asks for is taken. -/
  | taken {file : GeistFile} (h : GeistFile.load path content = .ok file)
    (htaken : file.geistId stem ∈ r.ids) :
    Refuses r path stem content (RegistryError.duplicate (file.geistId stem)).message

/-- What a file gives, from its path, its stem and what reading it gives: the id of its geist, if there is
one, and the registry with it. -/
inductive Loads (count : Nat) (r : Registry) (path stem : String) (content : Except FileError String) :
    Option String → Registry → Prop
  /-- The geist that it asks for. -/
  | own {file : GeistFile} (h : GeistFile.load path content = .ok file)
    (hfree : file.geistId stem ∉ r.ids) :
    Loads count r path stem content (some (file.geistId stem))
      (r.put (file.geistId stem) (file.entry (file.geistId stem) path count))
  /-- A disabled geist under its stem. -/
  | stem {reason : String} (h : r.Refuses path stem content reason) (hfree : stem ∉ r.ids) :
    Loads count r path stem content (some stem) (r.put stem (.invalid stem path reason))
  | skipped {reason : String} (h : r.Refuses path stem content reason) (htaken : stem ∈ r.ids) :
    Loads count r path stem content none r

/-- What the files of a directory give, one after another. -/
inductive LoadsAll (count : Nat) (directory : String) :
    Registry → List (String × FileNode) → List (Option String) → Registry → Prop
  | nil (r : Registry) : LoadsAll count directory r [] [] r
  | cons {r r₁ r' : Registry} {e : String × FileNode} {es : List (String × FileNode)} {id : Option String}
    {ids : List (Option String)}
    (h : Loads count r (Path.join directory e.1) (FileName.stem e.1) e.2.readText id r₁)
    (hrest : LoadsAll count directory r₁ es ids r') : LoadsAll count directory r (e :: es) (id :: ids) r'

/-! ### One file -/

section Entry

variable {r : Registry} {count : Nat} {directory : String} {e : String × FileNode}

/-- An entry is loaded as its file is, when that file is added. -/
theorem addEntry_of_addFile {r' : Registry} {id : String}
    (h : r.addFile count (Path.join directory e.1) e.2.readText = .ok (r', id)) :
    r.addEntry count directory e = (r', some id) := by
  simp only [addEntry, h]

theorem loads_of_addFile_error {cause : RegistryError}
    (h : r.addFile count (Path.join directory e.1) e.2.readText = .error cause)
    (hrefuses : r.Refuses (Path.join directory e.1) (FileName.stem e.1) e.2.readText cause.message) :
    Loads count r (Path.join directory e.1) (FileName.stem e.1) e.2.readText
      (r.addEntry count directory e).2 (r.addEntry count directory e).1 := by
  by_cases hstem : FileName.stem e.1 ∈ r.ids
  · have hentry : r.addEntry count directory e = (r, none) := by
      simp only [addEntry, h, addInvalid_eq, if_pos hstem]
    rw [hentry]
    exact .skipped hrefuses hstem
  · have hentry : r.addEntry count directory e =
        (r.put (FileName.stem e.1) (.invalid (FileName.stem e.1) (Path.join directory e.1) cause.message),
          some (FileName.stem e.1)) := by
      simp only [addEntry, h, addInvalid_eq, if_neg hstem]
    rw [hentry]
    exact .stem hrefuses hstem

/-- An entry without a symbol table. Its stem is tried first for itself and then once more, in vain. -/
theorem loads_of_load_error (hname : Path.fileName (Path.join directory e.1) = e.1) {cause : GeistFileError}
    (h : GeistFile.load (Path.join directory e.1) e.2.readText = .error cause) :
    Loads count r (Path.join directory e.1) (FileName.stem e.1) e.2.readText
      (r.addEntry count directory e).2 (r.addEntry count directory e).1 := by
  rcases addFile_of_error r count h (congrArg FileName.stem hname) with hfile | ⟨c, rfl, hfile⟩
  · by_cases hstem : FileName.stem e.1 ∈ r.ids
    · rw [if_pos hstem] at hfile
      have hentry : r.addEntry count directory e = (r, none) := by
        simp only [addEntry, hfile, addInvalid_eq, if_pos hstem]
      rw [hentry]
      exact .skipped (.unloaded h) hstem
    · rw [if_neg hstem] at hfile
      rw [addEntry_of_addFile hfile]
      exact .stem (.unloaded h) hstem
  · exact loads_of_addFile_error hfile (.unloaded h)

theorem loads_addEntry (r : Registry) (count : Nat)
    (hname : Path.fileName (Path.join directory e.1) = e.1) :
    Loads count r (Path.join directory e.1) (FileName.stem e.1) e.2.readText
      (r.addEntry count directory e).2 (r.addEntry count directory e).1 := by
  cases hload : GeistFile.load (Path.join directory e.1) e.2.readText with
  | error cause => exact loads_of_load_error hname hload
  | ok file =>
    have hfile := addFile_of_ok r count hload (congrArg FileName.stem hname)
    by_cases hid : file.geistId (FileName.stem e.1) ∈ r.ids
    · rw [if_pos hid] at hfile
      exact loads_of_addFile_error hfile (.taken hload hid)
    · rw [if_neg hid] at hfile
      rw [addEntry_of_addFile hfile]
      exact .own hload hid

end Entry

/-! ### All files -/

theorem addEntries_cons (count : Nat) (directory : String) (r : Registry) (e : String × FileNode)
    (es : List (String × FileNode)) :
    addEntries count directory r (e :: es) =
      ((addEntries count directory (r.addEntry count directory e).1 es).1,
        (r.addEntry count directory e).2.toList ++
          (addEntries count directory (r.addEntry count directory e).1 es).2) := rfl

/-- Entries are loaded one after another, and the ids are those of the geists that they give. -/
theorem loadsAll_addEntries (count : Nat) (directory : String) {es : List (String × FileNode)}
    (hnames : ∀ e ∈ es, Path.fileName (Path.join directory e.1) = e.1) (r : Registry) :
    ∃ ids, LoadsAll count directory r es ids (addEntries count directory r es).1 ∧
      (addEntries count directory r es).2 = ids.reduceOption := by
  induction es generalizing r with
  | nil => exact ⟨[], .nil r, rfl⟩
  | cons e es ih =>
    obtain ⟨hname, hnames⟩ := List.forall_mem_cons.mp hnames
    obtain ⟨ids, hrest, heq⟩ := ih hnames (r.addEntry count directory e).1
    refine ⟨(r.addEntry count directory e).2 :: ids, .cons (loads_addEntry r count hname) hrest, ?_⟩
    rw [addEntries_cons, heq]
    cases (r.addEntry count directory e).2 <;> rfl

/-- **A directory is loaded**, whatever it holds. Its grammar files are gone through in the order of their
names; each gives one geist or is skipped, as `Loads` says. Nothing but these geists is new, and the others
are as they were. -/
theorem addDirectory_loads (r : Registry) (count : Nat) (path : String) (entries : List (String × FileNode))
    (hnames : ∀ e ∈ entries, '/' ∉ e.1.toList) :
    ∃ files ids r', files.Perm (entries.filter fun e => GeistFile.isName e.1) ∧
      files.Pairwise (fun a b => a.1 ≤ b.1) ∧
      r.addDirectory count path (FileNode.directory entries).readDirectory = .ok (r', ids.reduceOption) ∧
      LoadsAll count path r files ids r' ∧ r.Grows ids.reduceOption r' := by
  have hfiles : ∀ e ∈ (FileNode.sorted entries).filter fun e => GeistFile.isName e.1,
      Path.fileName (Path.join path e.1) = e.1 := by
    intro e he
    obtain ⟨hmem, hname⟩ := List.mem_filter.mp he
    exact GeistFile.fileName_join hname (hnames e ((FileNode.sorted_perm entries).mem_iff.mp hmem)) path
  obtain ⟨ids, hall, heq⟩ := loadsAll_addEntries count path hfiles r
  have hadd : r.addDirectory count path (FileNode.directory entries).readDirectory =
      .ok ((addEntries count path r ((FileNode.sorted entries).filter fun e => GeistFile.isName e.1)).1,
        ids.reduceOption) := by
    rw [← heq]
    rfl
  exact ⟨_, ids, _, (FileNode.sorted_perm entries).filter _, (FileNode.sorted_pairwise entries).filter _, hadd,
    hall, grows_addDirectory hadd⟩

/-- Two files with one stem that cannot be read. -/
theorem addDirectory_loads_unreadable :
    (∀ e ∈ [("x.ron", FileNode.directory []), ("x.json", .directory [])], '/' ∉ e.1.toList) ∧
      ∃ files ids r', files.Perm ([("x.ron", FileNode.directory []), ("x.json", .directory [])].filter
          fun e => GeistFile.isName e.1) ∧
        files.Pairwise (fun a b => a.1 ≤ b.1) ∧
        empty.addDirectory 1 "geists" (FileNode.directory
          [("x.ron", .directory []), ("x.json", .directory [])]).readDirectory = .ok (r', ids.reduceOption) ∧
        LoadsAll 1 "geists" empty files ids r' ∧ empty.Grows ids.reduceOption r' :=
  ⟨by decide, addDirectory_loads empty 1 "geists" _ (by decide)⟩

end NoteMuse.Registry
