import NoteMuse.Decimal.Digits

/-!
Numbers that were written in decimal read back: the digits of a natural number below a limit, and the
text of a whole number of 64 bits.
-/

namespace NoteMuse.Decimal

/-! ### Digits -/

theorem isDigit_eq (c : Char) : isDigit c = c.isDigit := by
  simp only [isDigit, Char.isDigit, Char.le_def]

theorem toNat_of_isDigit {c : Char} (h : isDigit c = true) : 48 ≤ c.toNat ∧ c.toNat ≤ 57 := by
  simp only [isDigit, Char.le_def, UInt32.le_iff_toNat_le, Bool.and_eq_true,
    decide_eq_true_eq] at h
  exact h

theorem isDigit_of_mem_digits {n : Nat} {c : Char} (h : c ∈ digits n) : isDigit c = true := by
  rw [isDigit_eq]
  exact Nat.isDigit_of_mem_toDigits (by decide) (by decide) h

theorem digits_ne_nil (n : Nat) : digits n ≠ [] := Nat.toDigits_ne_nil

theorem all_isDigit_digits (n : Nat) : (digits n).all isDigit = true :=
  List.all_eq_true.mpr fun _ hc => isDigit_of_mem_digits hc

theorem exists_of_mem_toDigits {b n : Nat} {c : Char} (hb : 1 < b) (h : c ∈ Nat.toDigits b n) :
    ∃ d, d < b ∧ c = d.digitChar := by
  induction n using Nat.strongRecOn with
  | ind n ih =>
    by_cases hn : n < b
    · rw [Nat.toDigits_of_lt_base hn, List.mem_singleton] at h
      exact ⟨n, hn, h⟩
    · have hle : b ≤ n := Nat.le_of_not_lt hn
      rw [Nat.toDigits_of_base_le hb hle, List.mem_append, List.mem_singleton] at h
      rcases h with h | h
      · exact ih (n / b) (Nat.div_lt_self (by omega) hb) h
      · exact ⟨n % b, Nat.mod_lt n (by omega), h⟩

/-- The digits of a number denote it. -/
theorem value_digits (n : Nat) : value (digits n) = n := Nat.ofDigitChars_ten_toDigits

/-! ### Reading -/

theorem readNat?_digits {limit n : Nat} (h : n < limit) : readNat? limit (digits n) = some n := by
  unfold readNat?
  rw [if_pos]
  · rw [value_digits]
  · simp [digits_ne_nil, all_isDigit_digits, value_digits, h]

/-- A natural number below the limit reads back. -/
theorem readCount?_toString {limit n : Nat} (h : n < limit) : readCount? limit (toString n) = some n := by
  have hlist : (toString n).toList = digits n := String.toList_ofList
  unfold readCount?
  rw [hlist]
  split
  · next hplus =>
    have hdigit : isDigit '+' = true := isDigit_of_mem_digits (hplus ▸ List.mem_cons_self ..)
    exact absurd hdigit (by decide)
  · exact readNat?_digits h

theorem lt_of_readNat? {limit n : Nat} {cs : List Char} (h : readNat? limit cs = some n) :
    n < limit := by
  unfold readNat? at h
  split at h
  · next hc =>
    simp only [Bool.and_eq_true, decide_eq_true_eq] at hc
    obtain rfl := Option.some.inj h
    exact hc.2
  · cases h

theorem exists_digits_eq_cons (n : Nat) : ∃ d ds, digits n = d :: ds ∧ isDigit d = true := by
  obtain ⟨d, ds, h⟩ := List.exists_cons_of_ne_nil (digits_ne_nil n)
  exact ⟨d, ds, h, isDigit_of_mem_digits (h ▸ List.mem_cons_self ..)⟩

theorem readSign_digits (n : Nat) : readSign (digits n) = (false, digits n) := by
  obtain ⟨d, ds, h, hd⟩ := exists_digits_eq_cons n
  rw [h]
  unfold readSign
  split
  · next he => cases he; exact absurd hd (by decide)
  · next he => cases he; exact absurd hd (by decide)
  · rfl

/-- A whole number of 64 bits reads back. -/
theorem readInt64?_intText (n : Int64) : readInt64? (intText n.toInt).toList = some n := by
  have hlo := n.le_toInt
  have hhi := n.toInt_lt
  by_cases hn : n.toInt < 0
  · have hlt : n.toInt.natAbs < UInt64.size / 2 + 1 := by
      simp only [UInt64.size]
      omega
    have hr : readSign ('-' :: digits n.toInt.natAbs) = (true, digits n.toInt.natAbs) := rfl
    have he : (-(n.toInt.natAbs : Int)) = n.toInt := by omega
    unfold intText readInt64?
    rw [if_pos hn, String.toList_ofList, hr]
    simp only [if_true, readNat?_digits hlt]
    show some (Int64.ofInt (-(n.toInt.natAbs : Int))) = some n
    rw [he, Int64.ofInt_toInt]
  · have hlt : n.toInt.natAbs < UInt64.size / 2 := by
      simp only [UInt64.size]
      omega
    have he : (n.toInt.natAbs : Int) = n.toInt := by omega
    unfold intText readInt64?
    rw [if_neg hn, String.toList_ofList, readSign_digits]
    simp only [Bool.false_eq_true, if_false, readNat?_digits hlt, Option.map_some]
    rw [← Int64.ofInt_eq_ofNat, he, Int64.ofInt_toInt]

end NoteMuse.Decimal
