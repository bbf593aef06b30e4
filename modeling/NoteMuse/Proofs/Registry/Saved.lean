import NoteMuse.Proofs.Format.Ron.Reads
import NoteMuse.Registry.State

/-!
The text that keeps the state of a registry is read back as this state, whatever characters stand in ids and
in errors. Main statement: `decode_savedText`.
-/

namespace NoteMuse

open Format Format.Ron

namespace SavedGeist

variable (s : SavedGeist) (levels : Nat)

/-! ### Fields -/

theorem reads_id :
    Reads ((dialect ⟨false, false⟩).wrapped "GeistId" (dialect ⟨false, false⟩).text) (levels + 1)
      ((Value.tuple [.text s.id]).pretty 2).toList s.id := by
  have hpretty : ((Value.tuple [.text s.id]).pretty 2).toList = '(' :: (quote s.id).toList ++ [')'] := by
    simp [Value.pretty, prettyRow]
  rw [hpretty]
  exact (reads_text _ s.id).wrapped (opens_quote s.id) "GeistId"

theorem opens_id : Opens ((Value.tuple [.text s.id]).pretty 2).toList :=
  ⟨'(', ((quote s.id).toList ++ [')']), by simp [Value.pretty, prettyRow], by decide⟩

theorem reads_enabled :
    Reads (dialect ⟨false, false⟩).truth levels ((Value.truth s.enabled).pretty 2).toList s.enabled := by
  rw [Value.pretty]
  exact reads_truth _ s.enabled

theorem opens_enabled : Opens ((Value.truth s.enabled).pretty 2).toList := by
  rw [Value.pretty]
  cases s.enabled with
  | true => exact ⟨'t', _, rfl, by decide⟩
  | false => exact ⟨'f', _, rfl, by decide⟩

theorem reads_failures :
    Reads ((dialect ⟨false, false⟩).natural UInt32.size) levels
      ((Value.natural s.failures.toNat).pretty 2).toList s.failures.toNat := by
  rw [Value.pretty, String.toList_ofList]
  exact reads_natural _ s.failures.toNat_lt

theorem opens_failures : Opens ((Value.natural s.failures.toNat).pretty 2).toList := by
  rw [Value.pretty, String.toList_ofList]
  exact opens_digits s.failures.toNat

abbrev errorValue : Value := s.lastError.elim .none fun m => .some (.text m)

theorem reads_lastError :
    Reads ((dialect ⟨false, false⟩).optional (dialect ⟨false, false⟩).text) (levels + 1)
      (s.errorValue.pretty 2).toList s.lastError := by
  unfold errorValue
  cases s.lastError with
  | none => exact reads_none _
  | some m =>
    have hpretty : ((Value.some (.text m)).pretty 2).toList =
        "Some(".toList ++ (quote m).toList ++ [')'] := by
      simp [Value.pretty]
    rw [Option.elim_some, hpretty]
    exact (reads_text _ m).some _ (opens_quote m)

theorem opens_lastError : Opens (s.errorValue.pretty 2).toList := by
  unfold errorValue
  cases s.lastError with
  | none => exact ⟨'N', _, rfl, by decide⟩
  | some m =>
    exact ⟨'S', "ome(".toList ++ (quote m).toList ++ [')'], by simp [Value.pretty], by decide⟩

/-! ### States -/

def setters : List (String × (SavedGeist → SavedGeist)) :=
  [("id", fun t => { t with id := s.id }), ("enabled", fun t => { t with enabled := s.enabled }),
    ("consecutive_failures", fun t => { t with failures := s.failures.toNat.toUInt32 }),
    ("last_error", fun t => { t with lastError := s.lastError })]

theorem foldl_setters (t : SavedGeist) : s.setters.foldl (fun t f => f.2 t) t = s := by
  simp [setters]

/-- **What is kept of a geist is read back.** -/
theorem reads_decoder :
    Reads (decoder (dialect ⟨false, false⟩)) (levels + 3) (s.value.pretty 1).toList s := by
  have hnames : IsName "id" ∧ IsName "enabled" ∧ IsName "consecutive_failures" ∧ IsName "last_error" := by
    decide
  obtain ⟨hid, henabled, hfailures, herror⟩ := hnames
  unfold decoder value
  refine reads_structured _ _ s.setters (by simp) ?_ ?_ ?_
  · simp [hid, henabled, hfailures, herror]
  · refine .cons ?_ (.cons ?_ (.cons ?_ (.cons ?_ .nil)))
    · have hread := (s.reads_id levels).map fun id (t : SavedGeist) => { t with id }
      exact reads_field hid (by rfl) hread s.opens_id _
    · have hread := (s.reads_enabled (levels + 1)).map fun enabled (t : SavedGeist) => { t with enabled }
      exact reads_field henabled (by rfl) hread s.opens_enabled _
    · have hread := (s.reads_failures (levels + 1)).map fun n (t : SavedGeist) =>
        { t with failures := n.toUInt32 }
      exact reads_field hfailures (by rfl) hread s.opens_failures _
    · have hread := (s.reads_lastError levels).map fun lastError (t : SavedGeist) => { t with lastError }
      exact reads_field herror (by rfl) hread s.opens_lastError _
  · unfold Field.assemble
    rw [if_neg (by simp [setters]), if_neg (by simp [setters, Field.required, Field.optional]),
      foldl_setters]

theorem opens_value : Opens (s.value.pretty 1).toList := opens_pretty_record 1 (by simp)

end SavedGeist

/-- The states of geists, as they are written, are items of a list. -/
theorem exists_pretty_list (states : List SavedGeist) :
    ∃ body, ((Ron.Value.list (states.map SavedGeist.value)).pretty 0).toList = '[' :: body ∧
      items ']' (nested (SavedGeist.decoder (dialect ⟨false, false⟩))) 127 body = .ok (states, []) := by
  by_cases hs : states = []
  · subst hs
    refine ⟨[']'], by simp [Value.pretty], ?_⟩
    exact items_close (skipGap_cons (by decide) [])
  · have hne : states.map SavedGeist.value ≠ [] := by simpa using hs
    have htext := toList_pretty_list 0 [] hne
    rw [List.append_nil, List.map_map] at htext
    refine ⟨_, htext, items_newline (.inr rfl) ?_ ?_⟩
    · intro t ht
      obtain ⟨s, -, rfl⟩ := List.mem_map.mp ht
      exact s.opens_value
    · rw [List.forall₂_map_left_iff, List.forall₂_same]
      exact fun s _ => (s.reads_decoder 123).nested

/-- **The states of geists are read back** from the text that is written for them. -/
theorem decode_pretty_list (states : List SavedGeist) :
    Ron.decode (fun d => d.list (SavedGeist.decoder d))
      ((Ron.Value.list (states.map SavedGeist.value)).pretty 0) = .ok states := by
  obtain ⟨body, htext, hitems⟩ := exists_pretty_list states
  have hlist : (dialect ⟨false, false⟩).list (SavedGeist.decoder (dialect ⟨false, false⟩)) maxLevels
      ('[' :: body) = .ok (states, []) := hitems
  have hattributes : readAttributes ⟨false, false⟩ ('[' :: body) = .ok (⟨false, false⟩, '[' :: body) :=
    readAttributes_none _ (by simp)
  unfold Ron.decode
  rw [htext]
  simp only [bind, Except.bind, skipGap_cons (c := '[') (by decide), hattributes, hlist, skipGap_nil]
  rfl

/-- **What is kept of a registry is read back.** -/
theorem Registry.decode_savedText (r : Registry) :
    Ron.decode (fun d => d.list (SavedGeist.decoder d)) r.savedText = .ok r.saved :=
  decode_pretty_list r.saved

end NoteMuse
