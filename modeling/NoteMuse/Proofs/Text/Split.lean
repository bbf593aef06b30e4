import Mathlib.Data.List.TakeWhile
import NoteMuse.Text.Split

/-!
Cutting at a separator. No cut is made inside a text that lacks the first character of the separator; at a
separator of one character, pieces that lack it are cut apart again after they were joined with it. Words that
a space stands between are found again.
-/

namespace NoteMuse.Text

/-- Where two ways of cutting a text meet: what stands before a character that the beginning lacks has all of
the beginning. -/
theorem eq_append_of_append_cons {head args cs rest : List Char} {d : Char} (hd : d ∉ head)
    (h : cs ++ d :: rest = head ++ args) : ∃ args', cs = head ++ args' ∧ args = args' ++ d :: rest := by
  rcases List.append_eq_append_iff.mp h with ⟨more, hhead, hrest⟩ | ⟨args', hcs, hargs⟩
  · cases more with
    | nil => exact ⟨[], by simpa using hhead.symm, hrest.symm⟩
    | cons x more =>
      obtain ⟨rfl, -⟩ := List.cons.inj hrest
      rw [hhead] at hd
      exact absurd (List.mem_append_right _ (List.mem_cons_self ..)) hd
  · exact ⟨args', hcs, hargs⟩

theorem map_ofList_eq_iff {ls : List (List Char)} {ts : List String} :
    ls.map String.ofList = ts ↔ ls = ts.map String.toList := by
  constructor
  · rintro rfl
    simp [Function.comp_def]
  · rintro rfl
    simp [Function.comp_def]

/-! ### Separators of any length -/

section Separator

variable {d : Char} {ds : List Char}

/-- What lacks the first character of a separator stays in one piece. -/
theorem cutAt_append_left {a : List Char} (h : d ∉ a) (b : List Char) :
    cutAt (d :: ds) (a ++ b) = (cutAt (d :: ds) b).map fun p => (a ++ p.1, p.2) := by
  induction a with
  | nil => simp
  | cons c a ih =>
    rw [List.mem_cons, not_or] at h
    have hp : (d :: ds).isPrefixOf (c :: (a ++ b)) = false := by
      rw [List.isPrefixOf, beq_eq_false_iff_ne.mpr h.1, Bool.false_and]
    rw [List.cons_append, cutAt, hp, if_neg Bool.false_ne_true, ih h.2, Option.map_map]
    rfl

theorem cutAt_eq_none {cs : List Char} (h : d ∉ cs) : cutAt (d :: ds) cs = none := by
  have hcut : cutAt (d :: ds) (cs ++ []) = none := by rw [cutAt_append_left h]; rfl
  rwa [List.append_nil] at hcut

theorem cutAt_separator (b : List Char) : cutAt (d :: ds) (d :: (ds ++ b)) = some ([], b) := by
  have hp : (d :: ds).isPrefixOf (d :: (ds ++ b)) = true :=
    List.isPrefixOf_iff_prefix.mpr (List.prefix_append (d :: ds) b)
  rw [cutAt, if_pos hp, List.length_cons, List.drop_succ_cons, List.drop_left]

theorem splitOn_of_cutAt_none {cs : List Char} (h : cutAt (d :: ds) cs = none) :
    splitOn (d :: ds) cs = [cs] := by
  rw [splitOn, dif_neg (List.cons_ne_nil _ _)]
  split
  · rfl
  · next hs => rw [h] at hs; cases hs

theorem splitOn_of_cutAt_some {cs a b : List Char} (h : cutAt (d :: ds) cs = some (a, b)) :
    splitOn (d :: ds) cs = a :: splitOn (d :: ds) b := by
  rw [splitOn, dif_neg (List.cons_ne_nil _ _)]
  split
  · next hn => rw [h] at hn; cases hn
  · next hs =>
    rw [h] at hs
    cases hs
    rfl

end Separator

/-! ### Separators of one character -/

section Character

variable {d : Char}

theorem cutAt_append {a : List Char} (h : d ∉ a) (b : List Char) :
    cutAt [d] (a ++ d :: b) = some (a, b) := by
  have hd : cutAt [d] (d :: b) = some ([], b) := cutAt_separator b
  rw [cutAt_append_left h, hd, Option.map_some, List.append_nil]

/-- Pieces without the separator, with one in front of each but the first, are cut apart again. -/
theorem splitOn_append_flatMap {a : List Char} {words : List (List Char)} (ha : d ∉ a)
    (hw : ∀ w ∈ words, d ∉ w) : splitOn [d] (a ++ words.flatMap (d :: ·)) = a :: words := by
  induction words generalizing a with
  | nil => rw [List.flatMap_nil, List.append_nil, splitOn_of_cutAt_none (cutAt_eq_none ha)]
  | cons w words ih =>
    rw [List.flatMap_cons, List.cons_append, splitOn_of_cutAt_some (cutAt_append ha _),
      ih (hw w (List.mem_cons_self ..)) fun v hv => hw v (List.mem_cons_of_mem _ hv)]

theorem splitOn_append_cons {b : List Char} (hb : d ∉ b) (a : List Char) :
    splitOn [d] (a ++ d :: b) = splitOn [d] a ++ [b] := by
  by_cases ha : d ∈ a
  · obtain ⟨x, y, rfl, hx⟩ := List.eq_append_cons_of_mem ha
    rw [List.append_assoc, List.cons_append, splitOn_of_cutAt_some (cutAt_append hx _),
      splitOn_of_cutAt_some (cutAt_append hx y), splitOn_append_cons hb y, List.cons_append]
  · rw [splitOn_of_cutAt_some (cutAt_append ha b), splitOn_of_cutAt_none (cutAt_eq_none hb),
      splitOn_of_cutAt_none (cutAt_eq_none ha), List.singleton_append]
termination_by a.length
decreasing_by
  subst a
  simp only [List.length_append, List.length_cons]
  omega

end Character

/-! ### Runs and words -/

section Runs

variable {p : Char → Bool} {w : List Char}

/-- The run of a class at the front ends where a character of another class stands. -/
theorem takeWhile_dropWhile_append {cs : List Char} {d : Char} (h : ∀ c ∈ cs, p c = true)
    (hd : p d = false) (rest : List Char) :
    (cs ++ d :: rest).takeWhile p = cs ∧ (cs ++ d :: rest).dropWhile p = d :: rest := by
  rw [List.takeWhile_append_of_pos h, List.dropWhile_append_of_pos h,
    List.takeWhile_cons_of_neg (by simp [hd]), List.dropWhile_cons_of_neg (by simp [hd]),
    List.append_nil]
  exact ⟨rfl, rfl⟩

/-- A run ends before the first character that is not in the class. -/
theorem runs_append (hne : w ≠ []) (hw : ∀ c ∈ w, p c = true) {d : Char} (hd : p d = false)
    (rest : List Char) : runs p (w ++ d :: rest) = w :: runs p rest := by
  obtain ⟨c, cs, rfl⟩ := List.exists_cons_of_ne_nil hne
  obtain ⟨hc, hcs⟩ := List.forall_mem_cons.mp hw
  obtain ⟨htake, hdrop⟩ := takeWhile_dropWhile_append hcs hd rest
  rw [List.cons_append, runs, if_pos hc, htake, hdrop, runs, if_neg (by simp [hd])]

theorem runs_eq_singleton (hne : w ≠ []) (hw : ∀ c ∈ w, p c = true) : runs p w = [w] := by
  obtain ⟨c, cs, rfl⟩ := List.exists_cons_of_ne_nil hne
  obtain ⟨hc, hcs⟩ := List.forall_mem_cons.mp hw
  rw [runs, if_pos hc, List.takeWhile_eq_self_iff.mpr hcs, List.dropWhile_eq_nil_iff.mpr hcs, runs]

end Runs

structure IsWord (s : String) : Prop where
  ne_nil : s.toList ≠ []
  solid : (s.toList.all fun c => !isBlank c) = true

theorem IsWord.fields_eq {s : String} (h : IsWord s) : fields s = [s] := by
  rw [fields, runs_eq_singleton h.ne_nil (List.all_eq_true.mp h.solid), List.map_singleton,
    String.ofList_toList]

theorem IsWord.fields_append {w : String} (h : IsWord w) (s : String) :
    fields (w ++ " " ++ s) = w :: fields s := by
  have hlist : (w ++ " " ++ s).toList = w.toList ++ ' ' :: s.toList := by
    rw [String.append_assoc, String.toList_append, String.toList_append]
    rfl
  rw [fields, hlist, runs_append h.ne_nil (List.all_eq_true.mp h.solid) (by decide), List.map_cons,
    String.ofList_toList]
  rfl

end NoteMuse.Text
