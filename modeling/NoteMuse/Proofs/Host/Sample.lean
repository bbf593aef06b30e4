import NoteMuse.Proofs.Host.Builtin
import NoteMuse.Proofs.Random.Sample

/-!
Samples of notes: as many different notes as the first argument says, or all notes when it says more than there
are. Main statement: `sampleNotes_exact`.
-/

namespace NoteMuse.Host.Builtin

open NoteMuse.Random

variable {v : Vault} {args : List Arg} {g : Generator} {k : Nat}

/-- How many notes the arguments ask for: one when there is no argument, and else what the first one says, which
must be a whole number that is not negative. -/
inductive Counts : List Arg → Nat → Prop
  | absent : Counts [] 1
  | first {n : Int64} {k : Nat} (h : n.toInt = k) (rest : List Arg) : Counts (.int n :: rest) k

theorem asCount?_eq_some_iff {a : Arg} : a.asCount? = some k ↔ ∃ n : Int64, a = .int n ∧ n.toInt = k := by
  cases a with
  | text s => simp [Arg.asCount?]
  | float x => simp [Arg.asCount?]
  | int n =>
    simp only [Arg.asCount?, Arg.int.injEq, exists_eq_left']
    split
    · simp only [Option.some.injEq]
      omega
    · simp only [reduceCtorEq, false_iff]
      omega

theorem countArg_eq_ok_iff : countArg args = .ok k ↔ Counts args k := by
  constructor
  · intro h
    cases args with
    | nil =>
      cases h
      exact .absent
    | cons a rest =>
      unfold countArg at h
      simp only at h
      split at h
      · next c hc =>
        cases h
        obtain ⟨n, rfl, hn⟩ := asCount?_eq_some_iff.mp hc
        exact .first hn rest
      · cases h
  · rintro (_ | ⟨hn, rest⟩)
    · rfl
    · simp only [countArg, asCount?_eq_some_iff.mpr ⟨_, rfl, hn⟩]

/-- Links to notes of the vault, no two to the same note: `k` of them, or one to each note when `k` is larger. -/
structure Samples (v : Vault) (k : Nat) (parts : List String) : Prop where
  length_eq : parts.length = min k v.noteCount
  nodup : parts.Nodup
  links : ∀ p ∈ parts, ∃ t ∈ v.titles, p = Link.wrap t
  all : v.noteCount ≤ k → parts.Perm (v.titles.map Link.wrap)

theorem samples_sample (v : Vault) (k : Nat) (g : Generator) :
    Samples v k ((sample k v.titles g).1.map Link.wrap) where
  length_eq := by rw [List.length_map, length_sample, Vault.length_titles]
  nodup := (nodup_sample k v.titles g v.nodup_titles).map Link.wrap_injective
  links p hp := by
    obtain ⟨t, ht, rfl⟩ := List.mem_map.mp hp
    exact ⟨t, sample_subset k v.titles g ht, rfl⟩
  all hk := by
    rw [← Vault.length_titles] at hk
    exact (sample_perm k v.titles g hk).map Link.wrap

theorem outcome_of_counts (hk : Counts args k) (v : Vault) (g : Generator) :
    outcome v "vault.sample_notes" args g =
      if v.noteCount = 0 then .error (.failed "vault.sample_notes" "vault has no notes")
      else .ok (.cluster ((sample k v.titles g).1.map Link.wrap)) := by
  have hempty : v.titles.isEmpty = true ↔ v.noteCount = 0 := by
    rw [List.isEmpty_iff_length_eq_zero, Vault.length_titles]
  rw [outcome_eq (f := sampleNotes) rfl]
  unfold sampleNotes
  simp only [countArg_eq_ok_iff.mpr hk, hempty]
  split <;> rfl

/-- An argument that is no count is told of, whatever the vault is. -/
theorem outcome_of_not_counts (h : ¬∃ k, Counts args k) (v : Vault) (g : Generator) :
    ∃ a ∈ args.head?, outcome v "vault.sample_notes" args g =
      .error (.failed "vault.sample_notes" ("expected a count, got " ++ a.display)) := by
  rw [outcome_eq (f := sampleNotes) rfl]
  unfold sampleNotes
  cases args with
  | nil => exact absurd ⟨1, .absent⟩ h
  | cons a rest =>
    refine ⟨a, rfl, ?_⟩
    cases ha : a.asCount? with
    | none =>
      simp only [countArg, ha]
      rfl
    | some k =>
      have hcount : countArg (a :: rest) = .ok k := by simp only [countArg, ha]
      exact absurd ⟨k, countArg_eq_ok_iff.mp hcount⟩ h

/-- **Samples of notes.** A vault that has notes gives a sample of as many of them as the arguments ask for. The
call fails exactly when the vault has no notes or the first argument is no count. -/
theorem sampleNotes_exact (v : Vault) (args : List Arg) (g : Generator) :
    (∀ k, Counts args k → 0 < v.noteCount →
      ∃ parts, outcome v "vault.sample_notes" args g = .ok (.cluster parts) ∧ Samples v k parts) ∧
    ((∃ e, outcome v "vault.sample_notes" args g = .error e) ↔ v.noteCount = 0 ∨ ¬∃ k, Counts args k) := by
  constructor
  · intro k hk hv
    refine ⟨_, ?_, samples_sample v k g⟩
    rw [outcome_of_counts hk, if_neg (Nat.pos_iff_ne_zero.mp hv)]
  · by_cases hcount : ∃ k, Counts args k
    · rw [or_iff_left (not_not.mpr hcount)]
      obtain ⟨k, hk⟩ := hcount
      rw [outcome_of_counts hk]
      split
      · next hv => exact iff_of_true ⟨_, rfl⟩ hv
      · next hv => simp [hv]
    · obtain ⟨a, -, he⟩ := outcome_of_not_counts hcount v g
      exact iff_of_true ⟨_, he⟩ (.inr hcount)

theorem sampleNotes_exact_five_of_two :
    ∃ parts, outcome (.ofNotes [.new "A" "", .new "B" ""]) "vault.sample_notes" [.int 5] ⟨.replicate 8 0, 0⟩ =
        .ok (.cluster parts) ∧ parts.Nodup ∧ parts.Perm ["[[A]]", "[[B]]"] := by
  have htitles : (Vault.ofNotes [.new "A" "", .new "B" ""]).titles = ["A", "B"] := by decide +kernel
  have hsize : (Vault.ofNotes [.new "A" "", .new "B" ""]).noteCount = 2 := by decide +kernel
  obtain ⟨hok, -⟩ := sampleNotes_exact (.ofNotes [.new "A" "", .new "B" ""]) [.int 5] ⟨.replicate 8 0, 0⟩
  obtain ⟨parts, hparts, hs⟩ := hok 5 (.first (by decide) []) (by omega)
  have hall := hs.all (by omega)
  rw [htitles] at hall
  exact ⟨parts, hparts, hs.nodup, hall⟩

end NoteMuse.Host.Builtin
