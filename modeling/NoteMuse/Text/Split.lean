import NoteMuse.Text.Blank

/-!
Cutting texts apart: at the first occurrence of a separator, at every occurrence, and into the
maximal runs of a class of characters.
-/

namespace NoteMuse.Text

/-! ### At a separator -/

/-- What stands before and after the first occurrence of `d`. -/
def cutAt (d : List Char) : List Char → Option (List Char × List Char)
  | [] => if d.isEmpty then some ([], []) else none
  | c :: cs =>
    if d.isPrefixOf (c :: cs) then some ([], (c :: cs).drop d.length)
    else (cutAt d cs).map fun p => (c :: p.1, p.2)

theorem eq_of_cutAt {d s a b : List Char} (h : cutAt d s = some (a, b)) : s = a ++ d ++ b := by
  induction s generalizing a with
  | nil =>
    simp only [cutAt] at h
    split at h <;> simp_all
  | cons c cs ih =>
    simp only [cutAt] at h
    split at h
    · next hp =>
      obtain ⟨t, ht⟩ := List.isPrefixOf_iff_prefix.mp hp
      simp only [Option.some.injEq, Prod.mk.injEq] at h
      obtain ⟨rfl, rfl⟩ := h
      rw [← ht]; simp
    · obtain ⟨⟨a₁, b₁⟩, h₁, h₂⟩ := Option.map_eq_some_iff.mp h
      simp only [Prod.mk.injEq] at h₂
      obtain ⟨rfl, rfl⟩ := h₂
      simp [ih h₁]

theorem length_lt_of_cutAt {d s a b : List Char} (hd : d ≠ []) (h : cutAt d s = some (a, b)) :
    b.length < s.length := by
  have := congrArg List.length (eq_of_cutAt h)
  have := List.length_pos_iff.mpr hd
  simp only [List.length_append] at *
  omega

/-- The pieces between the occurrences of `d`, from the left. An empty `d` stands before, between
and after all characters. -/
def splitOn (d s : List Char) : List (List Char) :=
  if hd : d = [] then [] :: s.map (fun c => [c]) ++ [[]]
  else
    match h : cutAt d s with
    | none => [s]
    | some (a, b) =>
      have := length_lt_of_cutAt hd h
      a :: splitOn d b
termination_by s.length

def pieces (d s : String) : List String :=
  (splitOn d.toList s.toList).map String.ofList

/-! ### Into runs -/

/-- The maximal runs of characters in the class `p`. -/
def runs (p : Char → Bool) : List Char → List (List Char)
  | [] => []
  | c :: cs =>
    if p c then
      have := (List.dropWhile_suffix p (l := cs)).length_le
      (c :: cs.takeWhile p) :: runs p (cs.dropWhile p)
    else runs p cs
termination_by cs => cs.length

def fields (s : String) : List String :=
  (runs (fun c => !isBlank c) s.toList).map String.ofList

/-! ### Around a text -/

def dropStart? (d s : List Char) : Option (List Char) :=
  if d.isPrefixOf s then some (s.drop d.length) else none

def dropEnd? (d s : List Char) : Option (List Char) :=
  if d.isSuffixOf s then some (s.take (s.length - d.length)) else none

end NoteMuse.Text
