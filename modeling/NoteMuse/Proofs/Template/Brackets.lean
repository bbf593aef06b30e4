import NoteMuse.Proofs.Template.Balanced

/-!
Matched brackets. The text of an action ends at the first bracket before which all brackets are matched, where
a backslash takes away the meaning of the character after it, and nothing else does: the marks around a text
argument of a call do not. Main statement: `readBracketed_eq_some_iff`.
-/

namespace NoteMuse

/-- All brackets of the text are matched, those after a backslash apart. -/
inductive Matched : List Char → Prop
  | nil : Matched []
  | plain {c : Char} {cs : List Char} (hc : isPlain c = true) (h : Matched cs) : Matched (c :: cs)
  | hidden (c : Char) {cs : List Char} (h : Matched cs) : Matched ('\\' :: c :: cs)
  | brackets {a b : List Char} (ha : Matched a) (hb : Matched b) : Matched ('[' :: (a ++ ']' :: b))

/-- All brackets of the text are matched, apart from `depth` brackets that close. -/
inductive Closes : Nat → List Char → Prop
  | zero {cs : List Char} (h : Matched cs) : Closes 0 cs
  | succ {depth : Nat} {a b : List Char} (ha : Matched a) (hb : Closes depth b) :
    Closes (depth + 1) (a ++ ']' :: b)

theorem Matched.balanced {cs : List Char} (h : Matched cs) : Balanced cs := by
  induction h with
  | nil => exact .nil
  | plain hc _ ih => exact .cons hc ih
  | hidden c _ ih => exact .backslash c ih
  | @brackets a b _ _ iha ihb =>
    have happend := iha.brackets.append ihb
    rwa [List.cons_append, List.append_assoc, List.singleton_append] at happend

namespace Closes

variable {depth : Nat} {cs : List Char}

/-- What keeps a text matched in front of it keeps the count of the brackets that close. -/
theorem append_left (front : List Char) (hfront : ∀ {a}, Matched a → Matched (front ++ a))
    (h : Closes depth cs) : Closes depth (front ++ cs) := by
  cases h with
  | zero h => exact .zero (hfront h)
  | succ ha hb =>
    rw [← List.append_assoc]
    exact .succ (hfront ha) hb

theorem opening (h : Closes (depth + 1) cs) : Closes depth ('[' :: cs) := by
  cases h with
  | @succ _ a b ha hb =>
    have hbrackets : Closes depth (('[' :: (a ++ [']'])) ++ b) := by
      refine hb.append_left _ fun h => ?_
      rw [List.cons_append, List.append_assoc]
      exact .brackets ha h
    rwa [List.cons_append, List.append_assoc] at hbrackets

theorem closing (h : Closes depth cs) : Closes (depth + 1) (']' :: cs) := .succ .nil h

end Closes

/-- What is read up to a bracket that closes. -/
theorem closes_of_readBracketed {depth : Nat} {cs : List Char} {p : List Char × List Char}
    (h : readBracketed depth cs = some p) : Closes depth p.1 ∧ cs = p.1 ++ ']' :: p.2 := by
  fun_induction readBracketed depth cs generalizing p with
  | case1 => cases h
  | case2 => cases h
  | case3 depth c rest ih =>
    obtain ⟨q, hq, rfl⟩ := Option.map_eq_some_iff.mp h
    obtain ⟨hcloses, rfl⟩ := ih hq
    exact ⟨hcloses.append_left ['\\', c] fun h => .hidden c h, rfl⟩
  | case4 rest =>
    cases h
    exact ⟨.zero .nil, rfl⟩
  | case5 rest depth _ _ ih =>
    obtain ⟨q, hq, rfl⟩ := Option.map_eq_some_iff.mp h
    obtain ⟨hcloses, rfl⟩ := ih hq
    exact ⟨hcloses.closing, rfl⟩
  | case6 depth c rest _ hnext hclose ih =>
    obtain ⟨q, hq, rfl⟩ := Option.map_eq_some_iff.mp h
    obtain ⟨hcloses, rfl⟩ := ih hq
    refine ⟨?_, rfl⟩
    by_cases hopen : c = '['
    · subst hopen
      exact hcloses.opening
    -- a backslash would have hidden what follows it, and something does: the closing bracket
    · have hback : c ≠ '\\' := by
        intro hback
        obtain ⟨d, ds, hd⟩ := List.exists_cons_of_ne_nil (List.append_ne_nil_of_right_ne_nil q.1
          (List.cons_ne_nil ']' q.2))
        exact hnext d ds hback hd
      rw [if_neg hopen] at hcloses
      exact hcloses.append_left [c] fun h => .plain (isPlain_iff.mpr ⟨hback, hopen, hclose⟩) h

/-- **Where an action ends**: at the first bracket before which all brackets are matched. -/
theorem readBracketed_eq_some_iff {cs body after : List Char} :
    readBracketed 0 cs = some (body, after) ↔ Matched body ∧ cs = body ++ ']' :: after := by
  constructor
  · intro h
    obtain ⟨hcloses, hcs⟩ := closes_of_readBracketed h
    cases hcloses with
    | zero hmatched => exact ⟨hmatched, hcs⟩
  · rintro ⟨h, rfl⟩
    exact h.balanced.readBracketed_append after

theorem matched_iff {cs : List Char} : Matched cs ↔ readBracketed 0 (cs ++ [']']) = some (cs, []) := by
  rw [readBracketed_eq_some_iff, and_iff_left rfl]

instance : DecidablePred Matched := fun _ => decidable_of_iff _ matched_iff.symm

example : Matched "$a.b(\"[x]\", '\\]')".toList ∧ ¬Matched "$a.b(\"]\")".toList := by decide

end NoteMuse
