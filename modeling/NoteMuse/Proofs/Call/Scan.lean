import NoteMuse.Call.Reader
import NoteMuse.Proofs.Except
import NoteMuse.Proofs.Text.Blank
import NoteMuse.Proofs.Text.Split

/-!
How calls are read: a list of arguments one argument at a time, and a call up to its list of arguments. Main
statements: `readArgs_eq`, `scan_eq_some_iff`.
-/

namespace NoteMuse

open Text

namespace Call

/-! ### Lists of arguments -/

/-- How a list of arguments is read, one argument at a time. -/
theorem readArgs_eq (first : Bool) (cs : List Char) :
    readArgs first cs =
      match trimLeft cs with
      | [] => .error .unclosedList
      | c :: rest =>
        if first && c = ')' then .ok ([], rest)
        else
          (Arg.read (c :: rest)).bind fun p =>
            match trimLeft p.2 with
            | [] => .error .unclosedList
            | d :: rest =>
              if d = ',' then (readArgs false rest).map fun q => (p.1 :: q.1, q.2)
              else if d = ')' then .ok ([p.1], rest)
              else .error (.unexpected d) := by
  fun_cases readArgs first cs with
  | case1 hs => rw [hs]
  | case2 c rest hf hs => simp only [hs, hf, if_true]
  | case3 c rest hf hs e ha => simp only [hs, hf, ha]; rfl
  | case4 c rest hs hf a after ha ht => simp only [hs, hf, ha, ht, Except.bind]; rfl
  | case5 c rest hs hf a after ha rest' e hr ht => simp only [hs, hf, ha, ht, hr, Except.bind]; rfl
  | case6 c rest hs hf a after ha rest' as rest'' hr ht =>
    simp only [hs, hf, ha, ht, hr, Except.bind]; rfl
  | case7 c rest hs hf a after ha rest' ht hd => simp only [hs, hf, ha, ht, Except.bind]; rfl
  | case8 c rest hs hf a after ha d rest' ht hd hc =>
    simp only [hs, hf, ha, ht, hd, hc, Except.bind]; rfl

/-! ### Calls -/

/-- A name that a function or the space around it may have. -/
def isIdentifier (s : String) : Bool := !s.isEmpty && s.toList.all isIdentChar

theorem isIdentifier_iff {s : String} :
    isIdentifier s = true ↔ s.toList ≠ [] ∧ ∀ c ∈ s.toList, isIdentChar c = true := by
  simp [isIdentifier]

theorem scan_append {space function : String} (hspace : isIdentifier space = true)
    (hfunction : isIdentifier function = true) (cs : List Char) :
    scan (space.toList ++ '.' :: (function.toList ++ '(' :: cs)) =
      (readArgs true cs).map fun p => some (⟨space, function, p.1⟩, p.2) := by
  obtain ⟨hs, hsc⟩ := isIdentifier_iff.mp hspace
  obtain ⟨hf, hfc⟩ := isIdentifier_iff.mp hfunction
  have hdot := takeWhile_dropWhile_append (d := '.') hsc rfl (function.toList ++ '(' :: cs)
  have hopen := takeWhile_dropWhile_append (d := '(') hfc rfl cs
  unfold scan
  simp only [hdot, hopen, List.isEmpty_eq_false_iff.mpr hs, List.isEmpty_eq_false_iff.mpr hf, Bool.or_false,
    Bool.false_eq_true, if_false, String.ofList_toList]

/-- **What is read as a call**: two names with a dot between them, and a list of arguments. -/
theorem scan_eq_some_iff {cs after : List Char} {c : Call} :
    scan cs = .ok (some (c, after)) ↔
      isIdentifier c.space = true ∧ isIdentifier c.function = true ∧
        ∃ args, cs = c.space.toList ++ '.' :: (c.function.toList ++ '(' :: args) ∧
          readArgs true args = .ok (c.args, after) := by
  constructor
  · intro h
    have hall : ∀ ds : List Char, ∀ d ∈ ds.takeWhile isIdentChar, isIdentChar d = true := fun ds d hd =>
      List.all_eq_true.mp List.all_takeWhile d hd
    unfold scan at h
    simp only at h
    split at h
    · next cs₁ h₁ =>
      split at h
      · next cs₂ h₂ =>
        split at h
        · cases h
        · next hne =>
          obtain ⟨p, hp, he⟩ := map_eq_ok_iff.mp h
          cases he
          simp only [Bool.or_eq_true, not_or, Bool.not_eq_true, List.isEmpty_eq_false_iff] at hne
          simp only [isIdentifier_iff, String.toList_ofList]
          refine ⟨⟨hne.1, hall cs⟩, ⟨hne.2, hall cs₁⟩, cs₂, ?_, hp⟩
          rw [← h₂, List.takeWhile_append_dropWhile, ← h₁, List.takeWhile_append_dropWhile]
      · cases h
    · cases h
  · rintro ⟨hspace, hfunction, args, rfl, hargs⟩
    rw [scan_append hspace hfunction, hargs]
    rfl

/-! ### Whole texts -/

theorem parse_eq_ok_iff {marker : String} {c : Call} :
    parse marker = .ok c ↔ ∃ cs, trim marker.toList = '$' :: cs ∧ scan cs = .ok (some (c, [])) := by
  unfold parse
  constructor
  · intro h
    split at h
    · next cs htrim =>
      split at h
      · cases h
      · next c' hscan =>
        cases h
        exact ⟨cs, htrim, hscan⟩
      · cases h
      · cases h
    · cases h
  · rintro ⟨cs, htrim, hscan⟩
    simp only [htrim, hscan]

end Call

end NoteMuse
