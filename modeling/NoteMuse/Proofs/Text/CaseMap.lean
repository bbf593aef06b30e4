import Mathlib.Data.List.Basic
import NoteMuse.Proofs.Text.Blank
import NoteMuse.Text.CaseMap

/-!
Upper case. White space is its own upper case, and the upper case of any other character is one or more characters
that are no white space. The first character of an upper case is its own upper case.
-/

namespace NoteMuse.Text

/-! ### Shifts -/

/-- The shift moves the code point. -/
def CaseShift.Names (s : CaseShift) (n : Nat) : Prop := s.lo ≤ n ∧ n ≤ s.hi ∧ (n - s.lo) % s.step = 0

/-- Neither the code points that the shift names nor those it moves them to lie in the range. -/
def CaseShift.Avoids (s : CaseShift) (r : Nat × Nat) : Prop :=
  (s.hi < r.1 ∨ r.2 < s.lo) ∧ ((s.hi + s.delta).toNat < r.1 ∨ r.2 < (s.lo + s.delta).toNat)

instance (s : CaseShift) (r : Nat × Nat) : Decidable (s.Avoids r) := inferInstanceAs (Decidable (_ ∧ _))

/-- A code point stays, or one of the shifts names it and moves it. -/
theorem shifted_cases (shifts : List CaseShift) (n : Nat) :
    shifted shifts n = n ∨
      ∃ s ∈ shifts, s.Names n ∧ shifted shifts n = (n + s.delta).toNat := by
  induction shifts with
  | nil => exact .inl rfl
  | cons s shifts ih =>
    unfold shifted
    split
    · exact .inl rfl
    · split
      · next hlo hin =>
        simp only [Bool.and_eq_true, decide_eq_true_eq] at hin
        exact .inr ⟨s, by simp, ⟨by omega, hin⟩, rfl⟩
      · obtain h | ⟨s', hs', h⟩ := ih
        · exact .inl h
        · exact .inr ⟨s', List.mem_cons_of_mem _ hs', h⟩

section Avoiding

variable {shifts : List CaseShift} {r : Nat × Nat} {n : Nat}

lemma shifted_eq_self (h : ∀ s ∈ shifts, s.Avoids r) (hlo : r.1 ≤ n) (hhi : n ≤ r.2) :
    shifted shifts n = n := by
  obtain heq | ⟨s, hs, ⟨hslo, hshi, -⟩, -⟩ := shifted_cases shifts n
  · exact heq
  · obtain ⟨hfrom, -⟩ := h s hs
    omega

/-- What a shift moves does not get into a range that the shifts avoid. -/
theorem eq_of_shifted_mem (h : ∀ s ∈ shifts, s.Avoids r) (hlo : r.1 ≤ shifted shifts n)
    (hhi : shifted shifts n ≤ r.2) : shifted shifts n = n := by
  obtain heq | ⟨s, hs, ⟨hslo, hshi, -⟩, heq⟩ := shifted_cases shifts n
  · exact heq
  · obtain ⟨-, hto⟩ := h s hs
    omega

end Avoiding

/-! ### White space in upper case -/

lemma toNat_ofNat_or (n : Nat) : (Char.ofNat n).toNat = n ∨ Char.ofNat n = Char.ofNat 0 := by
  by_cases h : n.isValidChar
  · left
    rw [Char.ofNat, dif_pos h]
    rfl
  · right
    rw [Char.ofNat, dif_neg h]
    rfl

lemma upperShifts_avoid_blanks : ∀ r ∈ blankRanges, ∀ s ∈ upperShifts, s.Avoids r := by
  decide +kernel

lemma upperExpansions_not_blank : ∀ e ∈ upperExpansions,
    e.2 ≠ [] ∧ ∀ n ∈ e.1 :: e.2, isBlank (Char.ofNat n) = false := by
  decide +kernel

theorem mem_of_lookup {α β : Type} [BEq α] [LawfulBEq α] {table : List (α × β)} {key : α} {value : β}
    (h : table.lookup key = some value) : (key, value) ∈ table := by
  obtain ⟨before, after, rfl, -⟩ := List.lookup_eq_some_iff.mp h
  simp

lemma upperOf_cases (c : Char) :
    (∃ ns, (c.toNat, ns) ∈ upperExpansions ∧ upperOf c = ns.map Char.ofNat) ∨
      upperOf c = [Char.ofNat (shifted upperShifts c.toNat)] := by
  unfold upperOf
  split
  · next ns hns => exact .inl ⟨ns, mem_of_lookup hns, rfl⟩
  · exact .inr rfl

theorem upperOf_ne_nil (c : Char) : upperOf c ≠ [] := by
  obtain ⟨ns, hns, heq⟩ | heq := upperOf_cases c
  · have hne := (upperExpansions_not_blank _ hns).1
    simpa [heq] using hne
  · simp [heq]

theorem upperOf_of_blank {c : Char} (h : isBlank c = true) : upperOf c = [c] := by
  obtain ⟨ns, hns, -⟩ | heq := upperOf_cases c
  · have hc := (upperExpansions_not_blank _ hns).2 c.toNat (by simp)
    rw [Char.ofNat_toNat, h] at hc
    cases hc
  · obtain ⟨r, hr, hlo, hhi⟩ := Ranges.exists_of_covers h
    rw [heq, shifted_eq_self (upperShifts_avoid_blanks r hr) hlo hhi, Char.ofNat_toNat]

theorem isBlank_of_mem_upperOf {c d : Char} (h : isBlank c = false) (hd : d ∈ upperOf c) : isBlank d = false := by
  obtain ⟨ns, hns, heq⟩ | heq := upperOf_cases c
  · rw [heq] at hd
    obtain ⟨n, hn, rfl⟩ := List.mem_map.mp hd
    exact (upperExpansions_not_blank _ hns).2 n (List.mem_cons_of_mem _ hn)
  · rw [heq, List.mem_singleton] at hd
    subst hd
    rw [Bool.eq_false_iff]
    intro hblank
    obtain hn | hzero := toNat_ofNat_or (shifted upperShifts c.toNat)
    · obtain ⟨r, hr, hlo, hhi⟩ := Ranges.exists_of_covers hblank
      rw [hn] at hlo hhi
      rw [eq_of_shifted_mem (upperShifts_avoid_blanks r hr) hlo hhi, Char.ofNat_toNat, h] at hblank
      cases hblank
    · rw [hzero] at hblank
      exact absurd hblank (by decide)

/-- **Upper case leaves the white space of a text as it is.** -/
theorem blanks_upperOf (c : Char) : blanks (upperOf c) = blanks [c] := by
  cases h : isBlank c with
  | true => rw [upperOf_of_blank h]
  | false =>
    rw [blanks_eq_nil_iff.mpr fun d hd => isBlank_of_mem_upperOf h hd]
    simp [blanks_cons, h]

/-! ### Upper case twice -/

/-- No shift of the list names a code point from `lo` to `hi`, or only such that are at an odd distance from `lo`. -/
def clear (lo hi : Nat) (even : Bool) : List CaseShift → Bool
  | [] => true
  | s :: rest =>
    Nat.blt hi s.lo ||
      ((Nat.blt s.hi lo || (even && Nat.beq s.step 2 && Nat.beq ((lo + s.lo) % 2) 1)) && clear lo hi even rest)

lemma shifted_of_clear {shifts : List CaseShift} {lo hi n : Nat} {even : Bool}
    (h : clear lo hi even shifts = true) (hlo : lo ≤ n) (hhi : n ≤ hi) (heven : even = true → (n - lo) % 2 = 0) :
    shifted shifts n = n := by
  induction shifts with
  | nil => rfl
  | cons s shifts ih =>
    simp only [clear, Bool.or_eq_true, Bool.and_eq_true, Nat.blt_eq, Nat.beq_eq] at h
    unfold shifted
    split
    · rfl
    · next hslo =>
      obtain hbelow | ⟨hpast, hrest⟩ := h
      · omega
      · have hunnamed : ¬(n ≤ s.hi ∧ (n - s.lo) % s.step = 0) := by
          rintro ⟨hshi, hstep⟩
          obtain hpast | ⟨⟨heven', htwo⟩, hodd⟩ := hpast
          · omega
          · have hn := heven heven'
            rw [htwo] at hstep
            omega
        rw [if_neg (by simpa using hunnamed)]
        exact ih hrest

lemma upperShifts_clear : ∀ s ∈ upperShifts,
    0 ≤ s.lo + s.delta ∧
      clear (s.lo + s.delta).toNat (s.hi + s.delta).toNat (Nat.beq s.step 2 || Nat.beq s.lo s.hi) upperShifts = true := by
  decide +kernel

lemma upperShifts_miss_expansions : ∀ s ∈ upperShifts, (upperExpansions.all fun e =>
    Nat.blt (s.hi + s.delta).toNat e.1 || Nat.blt e.1 (s.lo + s.delta).toNat) = true := by
  decide +kernel

lemma upperExpansions_clear : ∀ e ∈ upperExpansions, ∀ n ∈ e.2.head?,
    (upperExpansions.lookup n).isNone = true ∧ clear n n false upperShifts = true := by
  decide +kernel

lemma upperOf_ofNat_eq_self {n : Nat} (hkey : upperExpansions.lookup n = none) (hshift : shifted upperShifts n = n) :
    upperOf (Char.ofNat n) = [Char.ofNat n] := by
  obtain hn | hzero := toNat_ofNat_or n
  · unfold upperOf
    rw [hn, hkey, hshift]
  · rw [hzero]
    decide

lemma upperOf_of_shift {s : CaseShift} (hs : s ∈ upperShifts) {n : Nat} (hn : s.Names n) :
    upperOf (Char.ofNat (n + s.delta).toNat) = [Char.ofNat (n + s.delta).toNat] := by
  obtain ⟨hlo, hhi, hstep⟩ := hn
  obtain ⟨hnat, hclear⟩ := upperShifts_clear s hs
  refine upperOf_ofNat_eq_self ?_ (shifted_of_clear hclear (by omega) (by omega) ?_)
  · have hmiss := List.all_eq_true.mp (upperShifts_miss_expansions s hs)
    simp only [Bool.or_eq_true, Nat.blt_eq] at hmiss
    refine List.lookup_eq_none_iff.mpr fun e he => ?_
    have haway := hmiss e he
    rw [bne_iff_ne]
    omega
  · intro heven
    simp only [Bool.or_eq_true, Nat.beq_eq] at heven
    obtain htwo | hone := heven
    · rw [htwo] at hstep
      omega
    · omega

/-- **The first character of an upper case is its own upper case.** -/
theorem upperOf_head {c d : Char} {ds : List Char} (h : upperOf c = d :: ds) : upperOf d = [d] := by
  obtain ⟨ns, hns, heq⟩ | heq := upperOf_cases c
  · cases ns with
    | nil => simp [heq] at h
    | cons n ns =>
      rw [heq, List.map_cons] at h
      obtain ⟨rfl, -⟩ := List.cons.inj h
      obtain ⟨hkey, hclear⟩ := upperExpansions_clear _ hns n rfl
      exact upperOf_ofNat_eq_self (Option.isNone_iff_eq_none.mp hkey)
        (shifted_of_clear hclear (Nat.le_refl n) (Nat.le_refl n) nofun)
  · rw [heq] at h
    obtain ⟨rfl, -⟩ := List.cons.inj h
    obtain hsame | ⟨s, hs, hn, hmoved⟩ := shifted_cases upperShifts c.toNat
    · rw [hsame, Char.ofNat_toNat] at heq ⊢
      exact heq
    · rw [hmoved]
      exact upperOf_of_shift hs hn

end NoteMuse.Text
