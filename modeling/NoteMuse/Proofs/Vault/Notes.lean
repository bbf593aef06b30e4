import Mathlib.Data.List.Nodup
import NoteMuse.Note.Folder
import NoteMuse.Proofs.Except
import NoteMuse.Proofs.Files
import NoteMuse.Proofs.Vault.Titles

/-!
Which notes a vault holds: of the notes with a title the last one. So a vault depends neither on the notes that
others replace nor, where no two notes have the same title, on the order in which the notes arrive. Main statement:
`ofNotes_any_order`.
-/

namespace NoteMuse.Vault

/-- The last of the notes with that title. -/
def lastTitled (ns : List Note) (title : String) : Option Note := ns.reverse.find? fun n => n.title = title

/-- All but the last note of each title removed. -/
def lasts : List Note → List Note
  | [] => []
  | n :: later => if ∃ m ∈ later, m.title = n.title then lasts later else n :: lasts later

/-! ### Notes by title -/

section Lasts

variable {ns ms : List Note} {n : Note} {t : String}

lemma lastTitled_cons (n : Note) (ns : List Note) (t : String) :
    lastTitled (n :: ns) t = (lastTitled ns t).or (if n.title = t then some n else none) := by
  unfold lastTitled
  rw [List.reverse_cons, List.find?_append]
  by_cases h : n.title = t <;> simp [h]

lemma title_of_lastTitled (h : lastTitled ns t = some n) : n.title = t := by
  simpa using List.find?_some h

lemma mem_of_lastTitled (h : lastTitled ns t = some n) : n ∈ ns :=
  List.mem_reverse.mp (List.mem_of_find?_eq_some h)

lemma lastTitled_eq_none_iff : lastTitled ns t = none ↔ ∀ n ∈ ns, n.title ≠ t := by
  simp [lastTitled]

/-- Where titles are distinct, each note is the last one with its title. -/
theorem lastTitled_eq_some_iff (h : (ns.map Note.title).Nodup) :
    lastTitled ns t = some n ↔ n ∈ ns ∧ n.title = t := by
  constructor
  · exact fun hn => ⟨mem_of_lastTitled hn, title_of_lastTitled hn⟩
  · rintro ⟨hn, rfl⟩
    cases hlast : lastTitled ns n.title with
    | none => exact absurd rfl (lastTitled_eq_none_iff.mp hlast n hn)
    | some m =>
      have hm : m = n := List.inj_on_of_nodup_map h (mem_of_lastTitled hlast) hn (title_of_lastTitled hlast)
      rw [hm]

lemma lastTitled_perm (h : ns.Perm ms) (hdistinct : (ns.map Note.title).Nodup) (t : String) :
    lastTitled ns t = lastTitled ms t := by
  have hdistinct' : (ms.map Note.title).Nodup := (h.map Note.title).nodup_iff.mp hdistinct
  refine Option.ext fun n => ?_
  rw [lastTitled_eq_some_iff hdistinct, lastTitled_eq_some_iff hdistinct', h.mem_iff]

lemma lastTitled_lasts (ns : List Note) (t : String) : lastTitled (lasts ns) t = lastTitled ns t := by
  induction ns with
  | nil => rfl
  | cons n later ih =>
    unfold lasts
    split
    · next hreplaced =>
      rw [ih, lastTitled_cons]
      by_cases ht : n.title = t
      · -- the note that is removed is not looked up, since a later one is
        obtain ⟨m, hm, hmt⟩ := hreplaced
        have hsome : lastTitled later t ≠ none := fun hnone =>
          lastTitled_eq_none_iff.mp hnone m hm (hmt.trans ht)
        obtain ⟨x, hx⟩ := Option.ne_none_iff_exists'.mp hsome
        rw [hx, Option.some_or]
      · rw [if_neg ht, Option.or_none]
    · rw [lastTitled_cons, lastTitled_cons, ih]

end Lasts

/-! ### Vaults of notes -/

section Notes

variable {v w : Vault} {ns ms : List Note} {t : String}

lemma eq_of_notes (h : v.notes = w.notes) : v = w := by
  obtain ⟨notes, index, rfl⟩ := v
  obtain ⟨notes', index', rfl⟩ := w
  cases h
  rfl

lemma getElem?_foldl_insert (m : Std.ExtTreeMap String Indexed) (ns : List Note) (t : String) :
    (ns.foldl (fun m n => m.insert n.title (Indexed.ofNote n)) m)[t]? =
      ((lastTitled ns t).map Indexed.ofNote).or m[t]? := by
  induction ns generalizing m with
  | nil => rfl
  | cons n ns ih =>
    rw [List.foldl_cons, ih, lastTitled_cons, Std.ExtTreeMap.getElem?_insert]
    by_cases h : n.title = t
    · subst h
      cases lastTitled ns n.title <;> simp
    · have hne : compare n.title t ≠ .eq := fun hc => h (Std.LawfulEqCmp.eq_of_compare hc)
      rw [if_neg hne, if_neg h, Option.or_none]

lemma getElem?_ofNotes (ns : List Note) (t : String) :
    (ofNotes ns).notes[t]? = (lastTitled ns t).map Indexed.ofNote := by
  unfold ofNotes
  rw [getElem?_foldl_insert, Std.ExtTreeMap.getElem?_empty, Option.or_none]

/-- **The note with a title** is the last one that has it. -/
theorem note?_ofNotes (ns : List Note) (t : String) : (ofNotes ns).note? t = lastTitled ns t := by
  unfold note?
  rw [getElem?_ofNotes, Option.map_map]
  exact Option.map_id_apply

theorem mem_titles_ofNotes : t ∈ (ofNotes ns).titles ↔ ∃ n ∈ ns, n.title = t := by
  rw [mem_titles, Std.ExtTreeMap.mem_iff_isSome_getElem?, getElem?_ofNotes, Option.isSome_map,
    Option.isSome_iff_ne_none, Ne, lastTitled_eq_none_iff]
  simp

/-- Vaults are equal when they hold equal notes. -/
theorem ofNotes_eq_of_lastTitled (h : ∀ t, lastTitled ns t = lastTitled ms t) : ofNotes ns = ofNotes ms := by
  refine eq_of_notes (Std.ExtTreeMap.ext_getElem? fun t => ?_)
  rw [getElem?_ofNotes, getElem?_ofNotes, h t]

end Notes

/-! ### Vaults of directories -/

section Directory

variable {path : String} {entries entries' : List (String × FileNode)} {e : String × FileNode}

/-- The note of an entry, if it is a Markdown file that can be read. -/
def readNote? (path : String) (e : String × FileNode) : Option Note := ((noteOfEntry path e).toOption).join

/-- The entry is no Markdown file, or one that can be read. -/
def Readable (e : String × FileNode) : Prop :=
  FileName.extension? e.1 = some "md" → ∃ text, e.2.readText = .ok text

lemma noteOfEntry_of_readable (h : Readable e) : noteOfEntry path e = .ok (readNote? path e) := by
  unfold readNote? noteOfEntry
  split
  · next hmd =>
    obtain ⟨text, htext⟩ := h hmd
    rw [htext]
    rfl
  · rfl

lemma name_of_readNote? {n : Note} (h : readNote? path e = some n) : e.1 = n.title ++ "." ++ "md" := by
  unfold readNote? noteOfEntry at h
  split at h
  · next hmd =>
    cases htext : e.2.readText with
    | error cause =>
      rw [htext] at h
      cases h
    | ok text =>
      rw [htext] at h
      cases h
      exact FileName.eq_of_extension? hmd
  · cases h

lemma ofDirectory_of_readable (h : ∀ e ∈ entries, Readable e) :
    ofDirectory path (.ok entries) = .ok (ofNotes (entries.filterMap (readNote? path))) := by
  have hnotes : entries.mapM (noteOfEntry path) = .ok (entries.map (readNote? path)) := by
    rw [mapM_eq_ok_iff, List.forall₂_map_right_iff, List.forall₂_same]
    exact fun e he => noteOfEntry_of_readable (h e he)
  unfold ofDirectory
  simp only [bind, Except.bind, hnotes, List.filterMap_map]
  rfl

lemma nodup_titles_of_entries (h : (entries.map Prod.fst).Nodup) :
    ((entries.filterMap (readNote? path)).map Note.title).Nodup := by
  rw [List.Nodup, List.pairwise_map, List.pairwise_filterMap]
  refine (List.pairwise_map.mp h).imp ?_
  intro a b hne n hn m hm htitle
  rw [name_of_readNote? hn, name_of_readNote? hm, htitle] at hne
  exact hne rfl

end Directory

/-- **Notes may arrive in any order.** The vault of some notes is the vault of those that no later note of the same
title replaces; notes with distinct titles make one vault in whatever order they are, and so do the files of a
directory when all Markdown files can be read. -/
theorem ofNotes_any_order :
    (∀ ns, ofNotes ns = ofNotes (lasts ns)) ∧
    (∀ ns ms, ns.Perm ms → (ns.map Note.title).Nodup → ofNotes ns = ofNotes ms) ∧
    ∀ path entries entries', entries.Perm entries' → (entries.map Prod.fst).Nodup →
      (∀ e ∈ entries, Readable e) →
      ∃ v, ofDirectory path (.ok entries) = .ok v ∧ ofDirectory path (.ok entries') = .ok v := by
  have hperm : ∀ ns ms, ns.Perm ms → (ns.map Note.title).Nodup → ofNotes ns = ofNotes ms :=
    fun ns ms h hdistinct => ofNotes_eq_of_lastTitled (lastTitled_perm h hdistinct)
  refine ⟨fun ns => ofNotes_eq_of_lastTitled fun t => (lastTitled_lasts ns t).symm, hperm, ?_⟩
  intro path entries entries' h hnames hreadable
  refine ⟨_, ofDirectory_of_readable hreadable, ?_⟩
  rw [ofDirectory_of_readable fun e he => hreadable e (h.mem_iff.mpr he)]
  exact congrArg Except.ok (hperm _ _ (h.filterMap _) (nodup_titles_of_entries hnames)).symm

/-- A directory of a note and a directory, listed in either order. -/
theorem ofNotes_any_order_two_entries :
    [("a.md", FileNode.file ⟨#[]⟩ 0), ("b", .directory [])].Perm [("b", .directory []), ("a.md", .file ⟨#[]⟩ 0)] ∧
      ([("a.md", FileNode.file ⟨#[]⟩ 0), ("b", .directory [])].map Prod.fst).Nodup ∧
      (∀ e ∈ [("a.md", FileNode.file ⟨#[]⟩ 0), ("b", .directory [])], Readable e) ∧
      ∃ v, ofDirectory "d" (.ok [("a.md", .file ⟨#[]⟩ 0), ("b", .directory [])]) = .ok v ∧
        ofDirectory "d" (.ok [("b", .directory []), ("a.md", .file ⟨#[]⟩ 0)]) = .ok v := by
  have hperm : [("a.md", FileNode.file ⟨#[]⟩ 0), ("b", .directory [])].Perm
      [("b", .directory []), ("a.md", .file ⟨#[]⟩ 0)] := .swap ..
  have hnames : ([("a.md", FileNode.file ⟨#[]⟩ 0), ("b", .directory [])].map Prod.fst).Nodup := by decide
  have hreadable : ∀ e ∈ [("a.md", FileNode.file ⟨#[]⟩ 0), ("b", .directory [])], Readable e := by
    simp only [List.forall_mem_cons]
    exact ⟨fun _ => ⟨"", rfl⟩, fun hmd => absurd hmd (by decide +kernel), nofun⟩
  exact ⟨hperm, hnames, hreadable, ofNotes_any_order.2.2 "d" _ _ hperm hnames hreadable⟩

end NoteMuse.Vault
