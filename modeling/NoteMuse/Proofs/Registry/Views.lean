import Mathlib.Data.List.Basic
import NoteMuse.Registry

/-!
What is seen of a registry: its ids ascend, and an entry that is put in its place leaves all others as
they are.
-/

namespace NoteMuse.Registry

open Geist

/-! ### Ids -/

theorem mem_ids {r : Registry} {id : String} : id ∈ r.ids ↔ ∃ e, r.lookup? id = some e := by
  rw [ids, Std.ExtTreeMap.mem_keys, Std.ExtTreeMap.mem_iff_isSome_getElem?,
    Option.isSome_iff_exists]
  rfl

theorem contains_iff_mem_ids {r : Registry} {id : String} : r.entries.contains id = true ↔ id ∈ r.ids := by
  rw [ids, Std.ExtTreeMap.mem_keys]
  rfl

theorem not_mem_ids_iff {r : Registry} {id : String} : id ∉ r.ids ↔ r.lookup? id = none := by
  rw [mem_ids, ← Option.isSome_iff_exists, Bool.not_eq_true, Option.isSome_eq_false_iff,
    Option.isNone_iff_eq_none]

theorem ids_pairwise (r : Registry) : r.ids.Pairwise (· < ·) := by
  refine r.entries.ordered_keys.imp ?_
  intro a b h
  exact (compareOfLessAndEq_eq_lt (α := String)).mp h

theorem nodup_ids (r : Registry) : r.ids.Nodup := r.entries.nodup_keys

/-! ### Entries -/

theorem lookup?_empty (id : String) : empty.lookup? id = none := Std.ExtTreeMap.getElem?_empty

theorem lookup?_put_self (r : Registry) (id : String) (e : Entry) :
    (r.put id e).lookup? id = some e :=
  Std.ExtTreeMap.getElem?_insert_self

theorem lookup?_put_of_ne {id id' : String} (h : id ≠ id') (r : Registry) (e : Entry) :
    (r.put id e).lookup? id' = r.lookup? id' := by
  unfold lookup? put
  rw [Std.ExtTreeMap.getElem?_insert, if_neg]
  intro hc
  exact h (Std.LawfulEqCmp.eq_of_compare hc)

theorem lookup?_put (r : Registry) (id : String) (e : Entry) (id' : String) :
    (r.put id e).lookup? id' = if id = id' then some e else r.lookup? id' := by
  by_cases h : id = id'
  · rw [if_pos h, ← h, lookup?_put_self]
  · rw [if_neg h, lookup?_put_of_ne h]

theorem forall_put {P : String → Entry → Prop} {r : Registry} {id : String} {e : Entry}
    (h : ∀ id e, r.lookup? id = some e → P id e) (he : P id e) (id' : String) (e' : Entry)
    (h' : (r.put id e).lookup? id' = some e') : P id' e' := by
  rw [lookup?_put] at h'
  by_cases hid : id = id'
  · rw [if_pos hid] at h'
    cases h'
    exact hid ▸ he
  · rw [if_neg hid] at h'
    exact h id' e' h'

/-- An entry under a new id leaves the others as they are. -/
theorem lookup?_put_of_free {r : Registry} {id id' : String} {e' : Entry} (hfree : r.lookup? id = none)
    (h : r.lookup? id' = some e') (e : Entry) : (r.put id e).lookup? id' = some e' := by
  rw [lookup?_put_of_ne, h]
  rintro rfl
  rw [hfree] at h
  cases h

theorem mem_ids_put {r : Registry} {id id' : String} {e : Entry} :
    id' ∈ (r.put id e).ids ↔ id = id' ∨ id' ∈ r.ids := by
  rw [mem_ids, mem_ids, lookup?_put]
  by_cases h : id = id' <;> simp [h]

theorem not_mem_ids_empty {id : String} : id ∉ empty.ids := by
  rw [mem_ids, lookup?_empty]
  rintro ⟨e, he⟩
  cases he

/-! ### Descriptors -/

theorem values_eq (r : Registry) : r.entries.values = r.entries.toList.map Prod.snd := by
  have hfold : r.entries.values = r.entries.foldr (fun _ e es => e :: es) [] := rfl
  rw [hfold, Std.ExtTreeMap.foldr_eq_foldr_toList, List.map_eq_foldr]

theorem lookup?_of_mem_toList {r : Registry} {p : String × Entry} (h : p ∈ r.entries.toList) :
    r.lookup? p.1 = some p.2 :=
  (Std.ExtTreeMap.mem_toList_iff_getKey?_eq_some_and_getElem?_eq_some.mp h).2

/-- The descriptors are those of the geists in the order of their ids. -/
theorem descriptors_eq (r : Registry) : r.descriptors = r.ids.filterMap r.descriptor? := by
  have hkeys : r.ids = r.entries.toList.map Prod.fst := Std.ExtTreeMap.map_fst_toList_eq_keys.symm
  rw [descriptors, values_eq, hkeys, List.map_map, List.filterMap_map, ← List.filterMap_eq_map]
  refine List.filterMap_congr fun p hp => ?_
  simp [descriptor?, lookup?_of_mem_toList hp]

theorem mem_descriptors {r : Registry} {d : Descriptor} :
    d ∈ r.descriptors ↔ ∃ id e, r.lookup? id = some e ∧ e.descriptor = d := by
  rw [descriptors_eq, List.mem_filterMap]
  unfold descriptor?
  constructor
  · rintro ⟨id, -, hd⟩
    obtain ⟨e, he, hd⟩ := Option.map_eq_some_iff.mp hd
    exact ⟨id, e, he, hd⟩
  · rintro ⟨id, e, he, rfl⟩
    exact ⟨id, mem_ids.mpr ⟨e, he⟩, by rw [he, Option.map_some]⟩

/-! ### Resets -/

/-- A reset that is not refused. -/
theorem reset_eq_ok_iff {r r' : Registry} {id : String} :
    r.reset id = .ok r' ↔
      ∃ e, r.lookup? id = some e ∧ e.source.runnable = true ∧ r' = r.put id e.restored := by
  unfold reset
  constructor
  · intro h
    split at h
    · cases h
    · next e he =>
      split at h
      · next hr => exact ⟨e, he, hr, (Except.ok.inj h).symm⟩
      · cases h
  · rintro ⟨e, he, hr, rfl⟩
    simp only [he, hr, if_true]

end NoteMuse.Registry
