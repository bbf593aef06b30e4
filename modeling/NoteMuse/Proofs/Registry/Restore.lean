import Mathlib.Data.List.Sort
import NoteMuse.Proofs.Registry.Saved
import NoteMuse.Proofs.Registry.Views

/-!
What a registry gets back from the state of another one. Restoring overwrites the state of each geist that
can run by the last of what was kept of it, so that a registry that was filled anew shows of all its geists
what the registry showed whose state was kept. Main statement: `restore_saved`.
-/

namespace NoteMuse

open Geist

/-! ### Lookups -/

/-- The entry with what was kept of it, if there is such a thing; an entry that cannot run stays as it is. -/
def Entry.withSaved (e : Entry) : Option SavedGeist → Entry
  | none => e
  | some s => if e.source.runnable then { e with descriptor := s.restore e.descriptor } else e

namespace Registry

variable {r : Registry} {id : String}

theorem lookup?_restoreOne (r : Registry) (s : SavedGeist) (id : String) :
    (r.restoreOne s).1.lookup? id =
      (r.lookup? id).map fun e => e.withSaved (if s.id = id then some s else none) := by
  unfold restoreOne
  by_cases hid : s.id = id
  · subst hid
    simp only [if_true]
    cases he : r.lookup? s.id with
    | none => simp [he]
    | some e =>
      cases hrun : e.source.runnable with
      | true => simp [Entry.withSaved, hrun, lookup?_put_self]
      | false => simp [Entry.withSaved, hrun, he]
  · have hsame : (r.restoreOne s).1.lookup? id = r.lookup? id := by
      unfold restoreOne
      split
      · rfl
      · split
        · exact lookup?_put_of_ne hid _ _
        · rfl
    unfold restoreOne at hsame
    rw [hsame, if_neg hid]
    simp [Entry.withSaved]

theorem withSaved_of_stuck {e : Entry} (h : e.source.runnable = false) (s? : Option SavedGeist) :
    e.withSaved s? = e := by
  cases s? with
  | none => rfl
  | some s => simp [Entry.withSaved, h]

/-- What was kept of a geist that cannot run is passed over, and it is not counted. -/
theorem restore_filter {e : Entry} (he : r.lookup? id = some e) (hrun : e.source.runnable = false)
    (states : List SavedGeist) : r.restore (states.filter fun s => s.id ≠ id) = r.restore states := by
  induction states generalizing r with
  | nil => rfl
  | cons s states ih =>
    by_cases hid : s.id = id
    · have hone : r.restoreOne s = (r, false) := by
        unfold restoreOne
        rw [hid, he]
        simp [hrun]
      rw [List.filter_cons_of_neg (by simp [hid]), ih he]
      simp [restore, hone]
    · have he' : (r.restoreOne s).1.lookup? id = some e := by
        rw [lookup?_restoreOne, he, Option.map_some, withSaved_of_stuck hrun]
      rw [List.filter_cons_of_pos (by simpa using hid)]
      simp only [restore]
      rw [ih he']

/-- What was kept last of a geist. -/
def lastOf (states : List SavedGeist) (id : String) : Option SavedGeist :=
  states.reverse.find? fun s => s.id = id

theorem withSaved_withSaved (e : Entry) (first next : Option SavedGeist) :
    (e.withSaved first).withSaved next = e.withSaved (next.or first) := by
  cases first with
  | none => cases next <;> rfl
  | some s =>
    cases next with
    | none => rfl
    | some t =>
      unfold Entry.withSaved
      cases hrun : e.source.runnable <;> simp [hrun, SavedGeist.restore]

/-- **The last of what was kept of a geist is what it gets back**, if it can run. -/
theorem lookup?_restore (r : Registry) (states : List SavedGeist) (id : String) :
    (r.restore states).1.lookup? id = (r.lookup? id).map fun e => e.withSaved (lastOf states id) := by
  induction states generalizing r with
  | nil => simp [restore, lastOf, Entry.withSaved]
  | cons s states ih =>
    have hlast : lastOf (s :: states) id = (lastOf states id).or (if s.id = id then some s else none) := by
      unfold lastOf
      rw [List.reverse_cons, List.find?_append]
      by_cases hid : s.id = id <;> simp [hid]
    show ((r.restoreOne s).1.restore states).1.lookup? id = _
    rw [ih, lookup?_restoreOne, Option.map_map, hlast]
    refine congrArg (fun f => (r.lookup? id).map f) (funext fun e => ?_)
    exact withSaved_withSaved e _ _

/-! ### States that were kept -/

/-- Every geist is registered under its own id. -/
def Keyed (r : Registry) : Prop := ∀ id e, r.lookup? id = some e → e.descriptor.id = id

theorem lastOf_saved (h : r.Keyed) (id : String) :
    lastOf r.saved id = (r.descriptor? id).map .ofDescriptor := by
  have hmem : ∀ s, s ∈ r.saved.reverse ↔ ∃ id e, r.lookup? id = some e ∧ .ofDescriptor e.descriptor = s := by
    intro s
    rw [List.mem_reverse, saved, List.mem_map]
    constructor
    · rintro ⟨d, hd, rfl⟩
      obtain ⟨id, e, he, rfl⟩ := mem_descriptors.mp hd
      exact ⟨id, e, he, rfl⟩
    · rintro ⟨id, e, he, rfl⟩
      exact ⟨e.descriptor, mem_descriptors.mpr ⟨id, e, he, rfl⟩, rfl⟩
  unfold lastOf descriptor?
  cases hfind : r.saved.reverse.find? fun s => s.id = id with
  | none =>
    cases he : r.lookup? id with
    | none => rfl
    | some e =>
      have hno := List.find?_eq_none.mp hfind _ ((hmem _).mpr ⟨id, e, he, rfl⟩)
      exact absurd (decide_eq_true (h id e he)) hno
  | some s =>
    have hid : s.id = id := by simpa using List.find?_some hfind
    obtain ⟨id', e, he, rfl⟩ := (hmem s).mp (List.mem_of_find?_eq_some hfind)
    obtain rfl : id' = id := (h id' e he).symm.trans hid
    rw [he]
    rfl

end Registry

/-! ### Registries at different times -/

/-- An entry `e₀` and what it has become: of its descriptor only what can be kept has changed, and nothing
when it cannot run. -/
structure Entry.Becomes (e₀ e : Entry) : Prop where
  source : e.source = e₀.source
  id : e.descriptor.id = e₀.descriptor.id
  kind : e.descriptor.kind = e₀.descriptor.kind
  sourceRef : e.descriptor.sourceRef = e₀.descriptor.sourceRef
  stuck : e₀.source.runnable = false → e.descriptor = e₀.descriptor

theorem Entry.Becomes.refl (e : Entry) : e.Becomes e := ⟨rfl, rfl, rfl, rfl, fun _ => rfl⟩

theorem Entry.Becomes.trans {e₀ e₁ e₂ : Entry} (h : e₀.Becomes e₁) (h' : e₁.Becomes e₂) : e₀.Becomes e₂ where
  source := h'.source.trans h.source
  id := h'.id.trans h.id
  kind := h'.kind.trans h.kind
  sourceRef := h'.sourceRef.trans h.sourceRef
  stuck := fun hrun => (h'.stuck (h.source ▸ hrun)).trans (h.stuck hrun)

theorem Entry.becomes_withSaved (e : Entry) (s? : Option SavedGeist) : e.Becomes (e.withSaved s?) := by
  cases s? with
  | none => exact .refl e
  | some s =>
    unfold Entry.withSaved
    cases hrun : e.source.runnable with
    | true => exact ⟨rfl, rfl, rfl, rfl, fun h => absurd (hrun.symm.trans h) (by decide)⟩
    | false => exact .refl e

/-- What is seen of an entry: all but the number of turns. -/
def Entry.shown (e : Entry) : Descriptor × Source := (e.descriptor, e.source)

theorem Entry.Becomes.shown_withSaved {e₀ e : Entry} (h : e₀.Becomes e) :
    (e₀.withSaved (some (.ofDescriptor e.descriptor))).shown = e.shown := by
  unfold Entry.withSaved Entry.shown
  cases hrun : e₀.source.runnable with
  | false => simp [h.stuck hrun, h.source]
  | true =>
    have hd : (SavedGeist.ofDescriptor e.descriptor).restore e₀.descriptor = e.descriptor := by
      have hid := h.id
      have hkind := h.kind
      have href := h.sourceRef
      cases he : e.descriptor
      rw [he] at hid hkind href
      simp [SavedGeist.restore, SavedGeist.ofDescriptor, ← hid, ← hkind, ← href]
    simp [hd, h.source]

namespace Registry

variable {r₀ r r' : Registry}

/-- The registry `r` has the geists of `r₀`, at a later time. -/
def Becomes (r₀ r : Registry) : Prop := ∀ id, Option.Rel Entry.Becomes (r₀.lookup? id) (r.lookup? id)

/-- The registries show the same of all geists. -/
def Alike (r r' : Registry) : Prop :=
  ∀ id, (r.lookup? id).map Entry.shown = (r'.lookup? id).map Entry.shown

theorem Becomes.refl (r : Registry) : r.Becomes r := by
  intro id
  cases r.lookup? id with
  | none => exact .none
  | some e => exact .some (.refl e)

theorem Becomes.exists_entry (h : r₀.Becomes r) {id : String} {e : Entry} (he : r.lookup? id = some e) :
    ∃ e₀, r₀.lookup? id = some e₀ ∧ e₀.Becomes e := by
  have hid := h id
  rw [he] at hid
  generalize r₀.lookup? id = o at hid
  cases hid with
  | some hb => exact ⟨_, rfl, hb⟩

theorem Becomes.exists_later (h : r₀.Becomes r) {id : String} {e₀ : Entry} (he₀ : r₀.lookup? id = some e₀) :
    ∃ e, r.lookup? id = some e ∧ e₀.Becomes e := by
  have hid := h id
  rw [he₀] at hid
  generalize r.lookup? id = o at hid
  cases hid with
  | some hb => exact ⟨_, rfl, hb⟩

theorem Becomes.map (h : r₀.Becomes r) {f : String → Entry → Entry}
    (hf : ∀ id e, r.lookup? id = some e → e.Becomes (f id e))
    (hr' : ∀ id, r'.lookup? id = (r.lookup? id).map (f id)) : r₀.Becomes r' := by
  intro id
  rw [hr' id]
  cases he : r.lookup? id with
  | none =>
    have hid := h id
    rwa [he] at hid
  | some e =>
    obtain ⟨e₀, he₀, hb⟩ := h.exists_entry he
    rw [he₀]
    exact .some (hb.trans (hf id e he))

theorem Becomes.restore (h : r₀.Becomes r) (states : List SavedGeist) : r₀.Becomes (r.restore states).1 :=
  h.map (fun _ e _ => e.becomes_withSaved _) (r.lookup?_restore states)

theorem becomes_load {content : Except FileError String} {n : Nat} (h : r.load content = .ok (r', n)) :
    r.Becomes r' := by
  unfold load at h
  split at h
  · cases h
    exact .refl r
  · cases h
    exact .refl r
  · cases h
  · split at h
    · next states _ =>
      have hr' : (r.restore states).1 = r' := congrArg Prod.fst (Except.ok.inj h)
      rw [← hr']
      exact (Becomes.refl r).restore states
    · cases h

theorem Keyed.of_becomes (h₀ : r₀.Keyed) (h : r₀.Becomes r) : r.Keyed := by
  intro id e he
  obtain ⟨e₀, he₀, hb⟩ := h.exists_entry he
  rw [hb.id, h₀ id e₀ he₀]

/-- **A registry that gets back what was kept of it later** shows what was seen of it then. -/
theorem restore_saved (h₀ : r₀.Keyed) (h : r₀.Becomes r) : (r₀.restore r.saved).1.Alike r := by
  intro id
  rw [lookup?_restore, lastOf_saved (h₀.of_becomes h), descriptor?]
  have hid := h id
  generalize r₀.lookup? id = o₀ at hid
  generalize r.lookup? id = o at hid
  cases hid with
  | none => rfl
  | some hb => exact congrArg some hb.shown_withSaved

theorem Alike.descriptor?_eq (h : r.Alike r') (id : String) : r.descriptor? id = r'.descriptor? id := by
  have hid := congrArg (Option.map Prod.fst) (h id)
  rwa [Option.map_map, Option.map_map] at hid

theorem Alike.ids_eq (h : r.Alike r') : r.ids = r'.ids := by
  refine (ids_pairwise _).eq_of_mem_iff (ids_pairwise _) fun id => ?_
  have hid := h id
  rw [mem_ids, mem_ids]
  cases he : r.lookup? id <;> cases he' : r'.lookup? id <;> simp [he, he'] at hid ⊢

/-- Registries that show the same have the same descriptors. -/
theorem Alike.descriptors_eq (h : r.Alike r') : r.descriptors = r'.descriptors := by
  rw [r.descriptors_eq, r'.descriptors_eq, h.ids_eq, funext h.descriptor?_eq]

end Registry

end NoteMuse
