import Mathlib.Data.List.TakeWhile
import NoteMuse.Proofs.Decimal
import NoteMuse.Text.Blank

/-!
Trimming takes away all white space at both ends, so that trimming again changes nothing, and it leaves a
text alone that has no white space. Digits are none.
-/

namespace NoteMuse.Text

open Decimal

theorem trimLeft_cons {c : Char} {cs : List Char} (h : isBlank c = false) :
    trimLeft (c :: cs) = c :: cs :=
  List.dropWhile_cons_of_neg (by simp [h])

theorem trimLeft_blank {c : Char} {cs : List Char} (h : isBlank c = true) :
    trimLeft (c :: cs) = trimLeft cs :=
  List.dropWhile_cons_of_pos h

theorem trimLeft_append_of_blank {before : List Char} (h : ∀ c ∈ before, isBlank c = true) (cs : List Char) :
    trimLeft (before ++ cs) = trimLeft cs :=
  List.dropWhile_append_of_pos h

theorem trimLeft_append {c : Char} {cs rest : List Char} (h : trimLeft cs = c :: rest) (more : List Char) :
    trimLeft (cs ++ more) = c :: (rest ++ more) := by
  unfold trimLeft at *
  rw [List.dropWhile_append, h]
  rfl

theorem dropWhile_isBlank_eq_self {cs : List Char} (h : ∀ c ∈ cs, isBlank c = false) :
    cs.dropWhile isBlank = cs := by
  cases cs with
  | nil => rfl
  | cons c cs => exact List.dropWhile_cons_of_neg (by simp [h c (List.mem_cons_self ..)])

theorem trim_eq_self {cs : List Char} (h : ∀ c ∈ cs, isBlank c = false) : trim cs = cs := by
  unfold trim trimRight trimLeft
  rw [dropWhile_isBlank_eq_self h, dropWhile_isBlank_eq_self fun c hc => h c (List.mem_reverse.mp hc),
    List.reverse_reverse]

theorem trimLeft_of_isPrefix {cs ds : List Char} (h : ds <+: trimLeft cs) : trimLeft ds = ds := by
  cases ds with
  | nil => rfl
  | cons d ds =>
    obtain ⟨rest, hrest⟩ := h
    have hd : isBlank d = false := by
      have hhead := List.head?_dropWhile_not isBlank cs
      rw [← trimLeft, ← hrest] at hhead
      exact hhead
    exact trimLeft_cons hd

theorem trimRight_isPrefix (cs : List Char) : trimRight cs <+: cs := by
  have h : cs.reverse.dropWhile isBlank <:+ cs.reverse := List.dropWhile_suffix _
  rw [← List.reverse_prefix, List.reverse_reverse] at h
  exact h

theorem trim_isInfix (cs : List Char) : trim cs <:+: cs :=
  (trimRight_isPrefix _).isInfix.trans (List.dropWhile_suffix _).isInfix

theorem trimRight_append {cs : List Char} {c : Char} (h : isBlank c = false) :
    trimRight (cs ++ [c]) = cs ++ [c] := by
  unfold trimRight
  rw [List.reverse_concat, List.dropWhile_cons_of_neg (by simp [h]), List.reverse_cons,
    List.reverse_reverse]

theorem trimRight_trimRight (cs : List Char) : trimRight (trimRight cs) = trimRight cs := by
  unfold trimRight
  rw [List.reverse_reverse, ← trimLeft, ← trimLeft, trimLeft_of_isPrefix (List.prefix_refl _)]

theorem trim_trim (cs : List Char) : trim (trim cs) = trim cs := by
  unfold trim
  rw [trimLeft_of_isPrefix (trimRight_isPrefix _), trimRight_trimRight]

theorem trimRight_append_of_blank {after : List Char} (h : ∀ c ∈ after, isBlank c = true) (cs : List Char) :
    trimRight (cs ++ after) = trimRight cs := by
  unfold trimRight
  rw [List.reverse_append, List.dropWhile_append_of_pos fun c hc => h c (List.mem_reverse.mp hc)]

theorem trim_blank_append {before : List Char} (h : ∀ c ∈ before, isBlank c = true) (cs : List Char) :
    trim (before ++ cs) = trim cs := by
  unfold trim
  rw [trimLeft_append_of_blank h]

theorem trim_append_of_blank {after : List Char} (h : ∀ c ∈ after, isBlank c = true) (cs : List Char) :
    trim (cs ++ after) = trim cs := by
  unfold trim
  cases hcs : trimLeft cs with
  | nil =>
    have hblank : ∀ c ∈ cs, isBlank c = true := List.dropWhile_eq_nil_iff.mp hcs
    rw [trimLeft_append_of_blank hblank, trimLeft, List.dropWhile_eq_nil_iff.mpr h]
  | cons c rest => rw [trimLeft_append hcs, ← List.cons_append, trimRight_append_of_blank h]

theorem trimmed_eq_self_iff {s : String} : trimmed s = s ↔ trim s.toList = s.toList := by
  unfold trimmed
  constructor
  · intro h
    have hlist := congrArg String.toList h
    rwa [String.toList_ofList] at hlist
  · intro h
    rw [h, String.ofList_toList]

theorem trimmed_trimmed (s : String) : trimmed (trimmed s) = trimmed s := by
  unfold trimmed
  rw [String.toList_ofList, trim_trim]

theorem trim_eq_nil_iff {cs : List Char} : trim cs = [] ↔ ∀ c ∈ cs, isBlank c = true := by
  unfold trim trimLeft
  constructor
  · intro h
    have hright : ∀ c ∈ (cs.dropWhile isBlank).reverse, isBlank c = true := by
      rw [trimRight, List.reverse_eq_nil_iff] at h
      exact List.dropWhile_eq_nil_iff.mp h
    -- The first character that is kept on the left would be kept on the right as well.
    refine List.dropWhile_eq_nil_iff.mp (List.eq_nil_iff_forall_not_mem.mpr fun c hc => ?_)
    have hhead := List.head?_dropWhile_not isBlank cs
    cases hcs : cs.dropWhile isBlank with
    | nil => simp [hcs] at hc
    | cons d ds =>
      rw [hcs] at hright hhead
      simp [hright d (by simp)] at hhead
  · intro h
    rw [List.dropWhile_eq_nil_iff.mpr h]
    rfl

theorem trimmed_eq_empty_iff {s : String} : trimmed s = "" ↔ isBlankText s = true := by
  rw [← String.toList_eq_nil_iff, trimmed, String.toList_ofList, trim_eq_nil_iff, isBlankText,
    List.all_eq_true]

/-! ### The white space of a text -/

/-- The white space of a text, in order. -/
def blanks (cs : List Char) : List Char := cs.filter isBlank

@[simp] theorem blanks_nil : blanks [] = [] := rfl

theorem blanks_cons (c : Char) (cs : List Char) :
    blanks (c :: cs) = if isBlank c then c :: blanks cs else blanks cs :=
  List.filter_cons

@[simp] theorem blanks_append (cs ds : List Char) : blanks (cs ++ ds) = blanks cs ++ blanks ds :=
  List.filter_append cs ds

theorem blanks_eq_nil_iff {cs : List Char} : blanks cs = [] ↔ ∀ c ∈ cs, isBlank c = false := by
  simp [blanks, List.filter_eq_nil_iff]

/-! ### Digits -/

theorem isBlank_of_isDigit {c : Char} (h : isDigit c = true) : isBlank c = false := by
  obtain ⟨hlo, hhi⟩ := toNat_of_isDigit h
  simp only [isBlank, Ranges.has, blankRanges, Ranges.covers]
  grind

end NoteMuse.Text
