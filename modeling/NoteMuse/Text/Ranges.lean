/-!
Classes of characters given by ranges of code points: ascending lists of pairs, searched from the
left and left as soon as a range begins above the character.
-/

namespace NoteMuse.Text

/-- Ascending ranges of code points, both ends included. -/
abbrev Ranges := List (Nat × Nat)

namespace Ranges

/-- The code point lies in one of the ranges. -/
def covers : Ranges → Nat → Bool
  | [], _ => false
  | (lo, hi) :: rest, n => if n < lo then false else n ≤ hi || covers rest n

def has (rs : Ranges) (c : Char) : Bool := rs.covers c.toNat

theorem exists_of_covers {rs : Ranges} {n : Nat} (h : rs.covers n = true) :
    ∃ r ∈ rs, r.1 ≤ n ∧ n ≤ r.2 := by
  induction rs with
  | nil => simp [covers] at h
  | cons r rest ih =>
    obtain ⟨lo, hi⟩ := r
    simp only [covers] at h
    split at h
    · exact absurd h (by simp)
    · rcases Bool.or_eq_true _ _ |>.mp h with h1 | h1
      · exact ⟨(lo, hi), by simp, by simp_all⟩
      · obtain ⟨r, hr, hn⟩ := ih h1
        exact ⟨r, List.mem_cons_of_mem _ hr, hn⟩

end Ranges

end NoteMuse.Text
