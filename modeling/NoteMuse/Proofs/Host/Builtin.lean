import NoteMuse.Proofs.Host.Call
import NoteMuse.Proofs.Note.Link
import NoteMuse.Proofs.Random.Elements
import NoteMuse.Proofs.Vault.Titles

/-!
What the functions give back that every grammar may call: texts whose links all lead to notes of the vault.
None of them breaks off, and each of them returns. Main statements: `builtin_gives`, `builtin_covers`.
-/

namespace NoteMuse

open Host NoteMuse.Random

/-- The text is made of plain characters and of links to notes of the vault. -/
def Vault.Covers (v : Vault) (text : String) : Prop :=
  ∃ ts, ts ⊆ v.titles ∧ Link.LinksTo text.toList ts

/-- The titles of the vault can stand in links as they are. -/
def Vault.Clean (v : Vault) : Prop := ∀ t ∈ v.titles, Link.Clean t

namespace Vault

variable {v : Vault}

theorem covers_of_notMem {s : String} (h : '[' ∉ s.toList) : v.Covers s :=
  ⟨[], List.nil_subset _, Link.linksTo_of_notMem h⟩

lemma covers_wrap (hv : v.Clean) {t : String} (ht : t ∈ v.titles) : v.Covers (Link.wrap t) :=
  ⟨[t], by simp [ht], Link.linksTo_wrap (hv t ht)⟩

theorem Covers.append {s t : String} (hs : v.Covers s) (ht : v.Covers t) : v.Covers (s ++ t) := by
  obtain ⟨ts, hts, hs⟩ := hs
  obtain ⟨us, hus, ht⟩ := ht
  refine ⟨ts ++ us, List.append_subset.mpr ⟨hts, hus⟩, ?_⟩
  rw [String.toList_append]
  exact hs.append ht

lemma covers_intercalate {d : String} (hd : '[' ∉ d.toList) {parts : List String}
    (h : ∀ s ∈ parts, v.Covers s) : v.Covers (d.intercalate parts) := by
  induction parts with
  | nil => exact covers_of_notMem (by simp)
  | cons s parts ih =>
    obtain ⟨hs, hparts⟩ := List.forall_mem_cons.mp h
    cases parts with
    | nil => rwa [String.intercalate_singleton]
    | cons t parts =>
      rw [String.intercalate_cons_cons]
      exact (hs.append (covers_of_notMem hd)).append (ih hparts)

end Vault

namespace Host

def Value.texts : Value → List String
  | .scalar s => [s]
  | .cluster parts => parts

/-- The vault covers each text of the value. -/
def Value.CoveredBy (v : Vault) (value : Value) : Prop := ∀ s ∈ value.texts, v.Covers s

variable {v : Vault}

theorem Value.CoveredBy.render {value : Value} (h : value.CoveredBy v) {d : String}
    (hd : '[' ∉ d.toList) : v.Covers (value.render d) := by
  cases value with
  | scalar s => exact h s (List.mem_singleton_self s)
  | cluster parts => exact Vault.covers_intercalate hd h

/-- The value is a link to a note of the vault, several of them, or a number. -/
inductive Value.OfNotes (v : Vault) : Value → Prop
  | link {t : String} (ht : t ∈ v.titles) : OfNotes v (.scalar (Link.wrap t))
  | links {ts : List String} (hts : ts ⊆ v.titles) : OfNotes v (.cluster (ts.map Link.wrap))
  | number (n : Nat) : OfNotes v (.scalar (toString n))

theorem Value.OfNotes.coveredBy (hv : v.Clean) {value : Value} (h : value.OfNotes v) : value.CoveredBy v := by
  intro s hs
  cases h with
  | link ht =>
    cases List.mem_singleton.mp hs
    exact Vault.covers_wrap hv ht
  | links hts =>
    obtain ⟨t, ht, rfl⟩ := List.mem_map.mp hs
    exact Vault.covers_wrap hv (hts ht)
  | number n =>
    cases List.mem_singleton.mp hs
    refine Vault.covers_of_notMem fun h => ?_
    rw [Nat.toString_eq_repr, Nat.toList_repr] at h
    exact absurd (Nat.isDigit_of_mem_toDigits (by decide) (by decide) h) (by decide)

lemma Value.OfNotes.pair {t u : String} (ht : t ∈ v.titles) (hu : u ∈ v.titles) :
    Value.OfNotes v (.cluster [Link.wrap t, Link.wrap u]) := by
  have hmem : [t, u] ⊆ v.titles := by simp [ht, hu]
  exact .links hmem

namespace Builtin

theorem draw_bind {ε α β : Type} (d : Draw α) (f : α → ExceptT ε Draw β) (g : Generator) :
    ((liftM d : ExceptT ε Draw α) >>= f) g = f (d g).1 (d g).2 := rfl

def outcome (v : Vault) (name : String) (args : List Arg) (g : Generator) : Except FunctionError Value :=
  (Functions.builtin.resolve v name args g).1

theorem outcome_eq {name : String} {f : Handler} (hf : Functions.builtin.find? name = some f) (args : List Arg)
    (g : Generator) : outcome v name args g = (f v args g).1.mapError (.ofFailure name) := by
  unfold outcome
  rw [Functions.resolve_of_find?_some hf]

/-- The first of the pair is one of the titles, the other an unlinked neighbour of it. -/
theorem mem_of_firstPair? {titles : List String} {g : Generator} {t u : String}
    (h : (firstPair? v titles g).1 = some (t, u)) : t ∈ titles ∧ u ∈ unlinkedNeighbours v t := by
  induction titles generalizing g with
  | nil => cases h
  | cons s titles ih =>
    unfold firstPair? at h
    simp only at h
    split at h
    · obtain ⟨ht, hu⟩ := ih h
      exact ⟨List.mem_cons_of_mem _ ht, hu⟩
    · obtain ⟨w, hw, he⟩ := Option.map_eq_some_iff.mp h
      cases he
      exact ⟨List.mem_cons_self .., List.mem_of_getElem? hw⟩

/-! ### What a function gives -/

/-- The function gives back notes of the vault or a number, or else it refuses: it does not break off and does
not go on without an end. -/
def Giving (v : Vault) (m : ExceptT Failure Draw Value) : Prop :=
  ∀ g, Ends (fun e => ∃ message, e = .refused message) (Value.OfNotes v) (m g).1

lemma giving_refuse (message : String) : Giving v (refuse message) := fun _ => ⟨message, rfl⟩

lemma giving_pick {pool : List String} (hpool : pool ⊆ v.titles) (what : String) :
    Giving v (pick pool what) := by
  intro g
  unfold pick
  rw [draw_bind]
  cases ht : (choose? pool g).1 with
  | none => exact ⟨_, rfl⟩
  | some t => exact .link (hpool (choose?_mem ht))

lemma giving_sampleNotes (args : List Arg) : Giving v (sampleNotes v args) := by
  unfold sampleNotes
  split
  · exact giving_refuse _
  · split
    · exact giving_refuse _
    · intro g
      rw [draw_bind]
      exact .links (sample_subset _ _ g)

lemma giving_taggedNote (args : List Arg) : Giving v (taggedNote v args) := by
  unfold taggedNote
  split
  · exact giving_refuse _
  · exact giving_pick (v.tagged_subset _) _

lemma giving_neighbour (args : List Arg) : Giving v (neighbour v args) := by
  unfold neighbour
  split
  · exact giving_refuse _
  · split
    · exact giving_refuse _
    · exact giving_pick (v.neighbours_subset _ _) _

lemma giving_linkedPair (args : List Arg) : Giving v (linkedPair v args) := by
  intro g
  unfold linkedPair
  rw [draw_bind]
  cases hp : (choose? v.edges g).1 with
  | none => exact ⟨_, rfl⟩
  | some p =>
    obtain ⟨ht, hu⟩ := Vault.mem_edges.mp (choose?_mem hp)
    exact .pair ht (v.outgoing_subset _ hu)

lemma giving_similarPair (args : List Arg) : Giving v (similarPair v args) := by
  intro g
  unfold similarPair
  rw [draw_bind, draw_bind]
  cases hp : (firstPair? v (shuffle v.titles g).1 (shuffle v.titles g).2).1 with
  | none => exact ⟨_, rfl⟩
  | some p =>
    obtain ⟨ht, hu⟩ := mem_of_firstPair? hp
    exact .pair ((shuffle_perm v.titles g).mem_iff.mp ht)
      (v.neighbours_subset _ _ (List.mem_filter.mp hu).1)

/-- **Every function of a host answers or refuses**, whatever the vault and the arguments, and its answers are
notes of the vault or a number. -/
theorem builtin_gives {name : String} {f : Handler} (hf : Functions.builtin.find? name = some f) (v : Vault)
    (args : List Arg) : Giving v (f v args) := by
  have hmem : (name, f) ∈ entries := Functions.holds_builtin.mem_of_find? hf
  simp only [entries, List.mem_cons, Prod.mk.injEq, List.not_mem_nil, or_false] at hmem
  obtain h | h | h | h | h | h | h | h | h | h | h := hmem <;> obtain ⟨-, rfl⟩ := h
  · exact giving_pick (List.Subset.refl _) _
  · exact giving_sampleNotes args
  · exact giving_pick v.orphans_subset _
  · exact giving_pick (v.hubs_subset _) _
  · exact giving_pick (v.recent_subset _) _
  · exact giving_pick (v.oldest_subset _) _
  · exact giving_taggedNote args
  · exact giving_neighbour args
  · exact giving_linkedPair args
  · exact giving_similarPair args
  · exact fun _ => .number _

/-- The function gives back values that the vault covers, when it gives any. -/
def Covering (v : Vault) (m : ExceptT Failure Draw Value) : Prop :=
  ∀ g, Ends (fun _ => True) (Value.CoveredBy v) (m g).1

/-- **What the functions of a host give back** links to notes of the vault and to nothing else. -/
theorem builtin_covers (hv : v.Clean) {name : String} {f : Handler}
    (hf : Functions.builtin.find? name = some f) (args : List Arg) : Covering v (f v args) := fun g =>
  (builtin_gives hf v args g).imp (fun _ _ => trivial) fun _ h => h.coveredBy hv

end Builtin

end Host

end NoteMuse
