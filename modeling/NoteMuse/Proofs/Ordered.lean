import NoteMuse.Proofs.Except
import Std.Data.ExtTreeMap

/-!
Maps from texts that are run through in the order of their keys. What comes before an entry are the entries
with smaller keys, so a search that stops at the first hit stops at the smallest key that is one. Main
statements: `findSome?_toList_eq_some_iff`, `mapM_toList_eq_error_iff`.
-/

namespace NoteMuse

variable {β γ : Type} {m : Std.ExtTreeMap String β} {key : String} {value : β}

theorem toList_pairwise (m : Std.ExtTreeMap String β) : m.toList.Pairwise fun p q => p.1 < q.1 :=
  m.ordered_keys_toList.imp fun h => (compareOfLessAndEq_eq_lt (α := String)).mp h

theorem mem_before_iff {before after : List (String × β)} (h : m.toList = before ++ (key, value) :: after)
    {p : String × β} : p ∈ before ↔ m[p.1]? = some p.2 ∧ p.1 < key := by
  have hsorted := toList_pairwise m
  rw [h, List.pairwise_append, List.pairwise_cons] at hsorted
  obtain ⟨-, ⟨hafter, -⟩, hbefore⟩ := hsorted
  rw [← Std.ExtTreeMap.mem_toList_iff_getElem?_eq_some, h]
  constructor
  · exact fun hp => ⟨List.mem_append_left _ hp, hbefore p hp _ (List.mem_cons_self ..)⟩
  · rintro ⟨hp, hlt⟩
    rcases List.mem_append.mp hp with hp | hp
    · exact hp
    · rcases List.mem_cons.mp hp with he | hp
      · obtain ⟨rfl, -⟩ := Prod.mk.inj he
        exact absurd hlt (String.lt_irrefl _)
      · exact absurd (hafter p hp) (String.lt_asymm hlt)

/-- **Up to an entry**: an entry with a property, before which all entries have another one, is an entry such
that all with smaller keys have it. -/
theorem exists_first_iff {P Q : String × β → Prop} :
    (∃ before p after, m.toList = before ++ p :: after ∧ P p ∧ ∀ q ∈ before, Q q) ↔
      ∃ key value, m[key]? = some value ∧ P (key, value) ∧
        ∀ key' value', m[key']? = some value' → key' < key → Q (key', value') := by
  constructor
  · rintro ⟨before, ⟨key, value⟩, after, h, hp, hbefore⟩
    have hmem : m[key]? = some value := by
      rw [← Std.ExtTreeMap.mem_toList_iff_getElem?_eq_some, h]
      exact List.mem_append_right _ (List.mem_cons_self ..)
    exact ⟨key, value, hmem, hp, fun key' value' h' hlt =>
      hbefore (key', value') ((mem_before_iff h).mpr ⟨h', hlt⟩)⟩
  · rintro ⟨key, value, hmem, hp, hfirst⟩
    obtain ⟨before, after, h⟩ :=
      List.append_of_mem (Std.ExtTreeMap.mem_toList_iff_getElem?_eq_some.mpr hmem)
    refine ⟨before, (key, value), after, h, hp, fun q hq => ?_⟩
    obtain ⟨hq, hlt⟩ := (mem_before_iff h).mp hq
    exact hfirst q.1 q.2 hq hlt

theorem findSome?_toList_eq_some_iff {f : String × β → Option γ} {c : γ} :
    m.toList.findSome? f = some c ↔
      ∃ key value, m[key]? = some value ∧ f (key, value) = some c ∧
        ∀ key' value', m[key']? = some value' → key' < key → f (key', value') = none := by
  rw [List.findSome?_eq_some_iff, exists_first_iff]

theorem mapM_toList_eq_error_iff {ε : Type} {f : String × β → Except ε γ} {e : ε} :
    m.toList.mapM f = .error e ↔
      ∃ key value, m[key]? = some value ∧ f (key, value) = .error e ∧
        ∀ key' value', m[key']? = some value' → key' < key → ∃ c, f (key', value') = .ok c := by
  rw [mapM_eq_error_iff, exists_first_iff]

end NoteMuse
