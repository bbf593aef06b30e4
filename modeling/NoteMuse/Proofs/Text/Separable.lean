import NoteMuse.Proofs.Text.Blank
import NoteMuse.Proofs.Text.Split

/-!
Pieces that a separator keeps apart. Texts that are joined by a separator are cut apart into the same texts
exactly when the separator does not occur in the last of them and occurs behind each other one no earlier than at
its end. Main statement: `splitOn_intercalate_iff`.
-/

namespace NoteMuse.Text

variable {d p s : List Char} {ps : List (List Char)}

/-! ### The first occurrence -/

/-- Of the text with the separator behind it, the first occurrence of the separator is the one behind. -/
def FirstBehind (d p : List Char) : Prop := ∀ a b, p ++ d = a ++ d ++ b → b = []

theorem firstBehind_nil (d : List Char) : FirstBehind d [] := by
  intro a b he
  have hlength := congrArg List.length he
  simp only [List.length_append, List.length_nil] at hlength
  exact List.length_eq_zero_iff.mp (by omega)

theorem FirstBehind.tail {c : Char} (h : FirstBehind d (c :: p)) : FirstBehind d p := by
  intro a b he
  exact h (c :: a) b (by rw [List.cons_append, he, List.cons_append, List.cons_append])

/-- What has the separator first behind it does not contain it. -/
theorem FirstBehind.not_isInfix (h : FirstBehind d p) (hd : d ≠ []) : ¬d <:+: p := by
  rintro ⟨a, b, rfl⟩
  have hnil := h a (b ++ d) (by simp)
  exact hd (List.append_eq_nil_iff.mp hnil).2

theorem cutAt_cons_of_not_prefixed {c : Char} (h : ¬d <+: c :: s) :
    cutAt d (c :: s) = (cutAt d s).map fun q => (c :: q.1, q.2) := by
  rw [cutAt, if_neg (by rwa [List.isPrefixOf_iff_prefix])]

theorem cutAt_eq_none_iff : cutAt d s = none ↔ ¬d <:+: s := by
  induction s with
  | nil =>
    rw [cutAt, List.infix_nil]
    cases d <;> simp
  | cons c s ih =>
    rw [List.infix_cons_iff, not_or]
    by_cases h : d <+: c :: s
    · rw [cutAt, if_pos (List.isPrefixOf_iff_prefix.mpr h)]
      simp [h]
    · rw [cutAt_cons_of_not_prefixed h, Option.map_eq_none_iff, ih]
      simp [h]

/-- **The cut is made behind a text** where the separator occurs first. -/
theorem FirstBehind.cutAt_append (h : FirstBehind d p) (hd : d ≠ []) (rest : List Char) :
    cutAt d (p ++ (d ++ rest)) = some (p, rest) := by
  induction p with
  | nil =>
    obtain ⟨c, ds, rfl⟩ := List.exists_cons_of_ne_nil hd
    exact cutAt_separator rest
  | cons c p ih =>
    have hnot : ¬d <+: c :: (p ++ (d ++ rest)) := by
      intro hpre
      have hshort : d <+: c :: p ++ d := by
        refine List.prefix_of_prefix_length_le hpre ⟨rest, by simp⟩ ?_
        rw [List.length_append]
        omega
      obtain ⟨b, hb⟩ := hshort
      have hnil := h [] b (by rw [List.nil_append, hb])
      have hlength := congrArg List.length hb
      rw [hnil, List.length_append, List.length_append, List.length_cons] at hlength
      simp at hlength
    rw [List.cons_append, cutAt_cons_of_not_prefixed hnot, ih h.tail, Option.map_some]

/-- What stands before a cut has the separator first behind it. -/
theorem firstBehind_of_cutAt {rest : List Char} (h : cutAt d s = some (p, rest)) : FirstBehind d p := by
  induction s generalizing p with
  | nil =>
    obtain ⟨hp, -⟩ := List.append_eq_nil_iff.mp (eq_of_cutAt h).symm
    obtain ⟨rfl, -⟩ := List.append_eq_nil_iff.mp hp
    exact firstBehind_nil d
  | cons c s ih =>
    by_cases hpre : d <+: c :: s
    · rw [cutAt, if_pos (List.isPrefixOf_iff_prefix.mpr hpre)] at h
      cases h
      exact firstBehind_nil d
    · rw [cutAt_cons_of_not_prefixed hpre] at h
      obtain ⟨⟨q, rest'⟩, hq, he⟩ := Option.map_eq_some_iff.mp h
      cases he
      intro a b he
      cases a with
      | nil =>
        refine absurd ⟨b ++ rest', ?_⟩ hpre
        rw [List.nil_append] at he
        rw [eq_of_cutAt hq, ← List.append_assoc, ← he]
        rfl
      | cons x a =>
        obtain ⟨-, htail⟩ := List.cons.inj he
        exact ih hq a b htail

/-! ### Characters that the separator lacks -/

section Foreign

variable {c : Char} (hc : c ∉ d)

include hc

theorem infix_of_infix_cons (hd : d ≠ []) (h : d <:+: c :: s) : d <:+: s := by
  rcases List.infix_cons_iff.mp h with hpre | hin
  · obtain ⟨x, xs, rfl⟩ := List.exists_cons_of_ne_nil hd
    obtain ⟨rfl, -⟩ := List.cons_prefix_cons.mp hpre
    exact absurd (List.mem_cons_self ..) hc
  · exact hin

theorem infix_of_infix_concat (hd : d ≠ []) (h : d <:+: s ++ [c]) : d <:+: s := by
  rcases List.infix_concat_iff.mp h with hsuf | hin
  · rcases List.suffix_concat_iff.mp hsuf with hnil | ⟨x, rfl, -⟩
    · exact absurd hnil hd
    · exact absurd (List.mem_append_right _ (List.mem_singleton_self c)) hc
  · exact hin

theorem infix_or_infix_of_append_cons (hd : d ≠ []) {q : List Char} (h : d <:+: p ++ c :: q) :
    d <:+: p ∨ d <:+: q := by
  induction p with
  | nil => exact .inr (infix_of_infix_cons hc hd h)
  | cons x p ih =>
    rcases List.infix_cons_iff.mp h with hpre | hin
    · have hsplit : x :: p ++ [c] <+: x :: (p ++ c :: q) := ⟨q, by simp⟩
      rcases List.prefix_or_prefix_of_prefix hpre hsplit with hshort | hlong
      · exact .inl (infix_of_infix_concat hc hd hshort.isInfix)
      · exact absurd (hlong.subset (by simp)) hc
    · exact (ih hin).imp_left fun hp => hp.trans (List.suffix_cons x p).isInfix

/-- A text that ends with such a character and does not contain the separator holds no beginning of it either. -/
theorem firstBehind_concat (hp : ¬d <:+: p ++ [c]) : FirstBehind d (p ++ [c]) := by
  intro a b he
  rw [List.append_assoc a d b] at he
  rcases List.append_eq_append_iff.mp he with ⟨more, -, hd⟩ | ⟨more, hmore, hd⟩
  · exact firstBehind_nil d more b (by rw [List.nil_append, List.append_assoc, ← hd])
  · rcases List.eq_nil_or_concat more with rfl | ⟨more, x, rfl⟩
    · exact List.append_right_eq_self.mp hd
    · -- the separator begins before the character, which then stands in it or behind it
      rw [List.concat_eq_append] at hmore hd
      have hends : p ++ [c] = a ++ more ++ [x] := by rw [hmore, List.append_assoc]
      obtain ⟨-, hx⟩ := List.append_inj' hends rfl
      cases hx
      rcases List.append_eq_append_iff.mp hd with ⟨rest, hrest, -⟩ | ⟨rest, hrest, -⟩
      · rw [hmore, hrest] at hp
        exact absurd ⟨a, rest, by simp⟩ hp
      · rw [hrest] at hc
        simp at hc

end Foreign

theorem infix_of_infix_append {before : List Char} (hbefore : ∀ c ∈ before, c ∉ d) (hd : d ≠ [])
    (h : d <:+: before ++ s) : d <:+: s := by
  induction before with
  | nil => exact h
  | cons c before ih =>
    obtain ⟨hc, hbefore⟩ := List.forall_mem_cons.mp hbefore
    exact ih hbefore (infix_of_infix_cons hc hd h)

theorem infix_of_infix_append_right {after : List Char} (hafter : ∀ c ∈ after, c ∉ d) (hd : d ≠ [])
    (h : d <:+: s ++ after) : d <:+: s := by
  induction after generalizing s with
  | nil => rwa [List.append_nil] at h
  | cons c after ih =>
    obtain ⟨hc, hafter⟩ := List.forall_mem_cons.mp hafter
    rw [List.append_cons] at h
    exact infix_of_infix_concat hc hd (ih hafter h)

theorem firstBehind_of_getLast? (hp : ¬d <:+: p) (hlast : ∀ c, p.getLast? = some c → c ∉ d) : FirstBehind d p := by
  rcases List.eq_nil_or_concat p with rfl | ⟨q, c, rfl⟩
  · exact firstBehind_nil d
  · rw [List.concat_eq_append] at hp hlast ⊢
    exact firstBehind_concat (hlast c List.getLast?_concat) hp

/-! ### Joined texts -/

/-- The separator does not occur in the last of the texts, and first behind each other one. -/
inductive Separable (d : List Char) : List (List Char) → Prop
  | last {p : List Char} (h : ¬d <:+: p) : Separable d [p]
  | cons {p : List Char} {ps : List (List Char)} (hp : FirstBehind d p) (hps : Separable d ps) :
    Separable d (p :: ps)

theorem Separable.ne_nil (h : Separable d ps) : ps ≠ [] := by
  cases h <;> exact List.cons_ne_nil _ _

section Pieces

variable (hd : d ≠ [])

include hd

/-- Texts that each have the separator first behind them are kept apart. -/
theorem separable_of_forall (hne : ps ≠ []) (h : ∀ p ∈ ps, FirstBehind d p) : Separable d ps := by
  induction ps with
  | nil => exact absurd rfl hne
  | cons p ps ih =>
    obtain ⟨hp, hrest⟩ := List.forall_mem_cons.mp h
    by_cases hps : ps = []
    · subst hps
      exact .last (hp.not_isInfix hd)
    · exact .cons hp (ih hps hrest)

/-- **Joined texts come apart again.** -/
theorem Separable.splitOn_intercalate (h : Separable d ps) : splitOn d (d.intercalate ps) = ps := by
  obtain ⟨c, ds, rfl⟩ := List.exists_cons_of_ne_nil hd
  induction h with
  | last h => rw [List.intercalate_singleton, splitOn_of_cutAt_none (cutAt_eq_none_iff.mpr h)]
  | cons hp hps ih =>
    rw [List.intercalate_cons_of_ne_nil hps.ne_nil, List.append_assoc,
      splitOn_of_cutAt_some (hp.cutAt_append hd _), ih]

theorem separable_splitOn (s : List Char) : Separable d (splitOn d s) := by
  fun_induction splitOn d s with
  | case1 _ hnil => exact absurd hnil hd
  | case2 _ _ hcut => exact .last (cutAt_eq_none_iff.mp hcut)
  | case3 _ _ _ _ hcut _ ih => exact .cons (firstBehind_of_cutAt hcut) ih

theorem intercalate_splitOn (s : List Char) : d.intercalate (splitOn d s) = s := by
  fun_induction splitOn d s with
  | case1 _ hnil => exact absurd hnil hd
  | case2 s => exact List.intercalate_singleton
  | case3 s _ _ rest hcut _ ih =>
    rw [List.intercalate_cons_of_ne_nil (separable_splitOn hd rest).ne_nil, ih, ← eq_of_cutAt hcut]

omit hd in
theorem intercalate_concat (h : ps ≠ []) (p : List Char) :
    d.intercalate (ps ++ [p]) = d.intercalate ps ++ (d ++ p) := by
  induction ps with
  | nil => exact absurd rfl h
  | cons q ps ih =>
    by_cases hps : ps = []
    · subst hps
      simp
    · rw [List.cons_append, List.intercalate_cons_of_ne_nil (List.append_ne_nil_of_left_ne_nil hps _),
        List.intercalate_cons_of_ne_nil hps, ih hps, List.append_assoc _ _ (d ++ p)]

/-- **Which texts come apart again** after they were joined: those that the separator keeps apart. -/
theorem splitOn_intercalate_iff : splitOn d (d.intercalate ps) = ps ↔ Separable d ps :=
  ⟨fun h => h ▸ separable_splitOn hd _, fun h => h.splitOn_intercalate hd⟩

/-! ### Trimmed texts -/

omit hd in
/-- Trimming the texts makes what they are joined to no longer, and shorter as soon as one of them is trimmed. -/
theorem length_intercalate_map_trim (d : List Char) (ps : List (List Char)) :
    (d.intercalate (ps.map trim)).length ≤ (d.intercalate ps).length ∧
      ((d.intercalate (ps.map trim)).length = (d.intercalate ps).length → ∀ p ∈ ps, trim p = p) := by
  induction ps with
  | nil => exact ⟨Nat.le_refl _, fun _ => List.forall_mem_nil _⟩
  | cons p ps ih =>
    have hp := (trim_isInfix p).length_le
    by_cases hps : ps = []
    · subst hps
      simp only [List.map_singleton, List.intercalate_singleton, List.forall_mem_singleton]
      exact ⟨hp, (trim_isInfix p).eq_of_length⟩
    · have hmap : ps.map trim ≠ [] := by simpa using hps
      simp only [List.map_cons, List.intercalate_cons_of_ne_nil hps, List.intercalate_cons_of_ne_nil hmap,
        List.length_append, List.forall_mem_cons]
      refine ⟨by omega, fun h => ⟨(trim_isInfix p).eq_of_length (by omega), ih.2 (by omega)⟩⟩

/-- Texts come apart again and are found trimmed when they were trimmed before and the separator keeps them
apart. -/
theorem map_trim_splitOn_intercalate_iff :
    (splitOn d (d.intercalate ps)).map trim = ps ↔ (∀ p ∈ ps, trim p = p) ∧ Separable d ps := by
  constructor
  · intro h
    have htrim : ∀ p ∈ splitOn d (d.intercalate ps), trim p = p := by
      refine (length_intercalate_map_trim d _).2 ?_
      rw [h, intercalate_splitOn hd]
    have hself : splitOn d (d.intercalate ps) = ps := by
      rwa [List.map_congr_left htrim, List.map_id'] at h
    rw [hself] at htrim
    exact ⟨htrim, (splitOn_intercalate_iff hd).mp hself⟩
  · rintro ⟨htrim, hps⟩
    rw [hps.splitOn_intercalate hd, List.map_congr_left htrim, List.map_id']

end Pieces

end NoteMuse.Text
