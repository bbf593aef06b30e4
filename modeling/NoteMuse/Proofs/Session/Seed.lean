import Mathlib.Algebra.Ring.Int.Defs
import Mathlib.Tactic.SplitIfs
import NoteMuse.Session.Seed

/-!
Seeds of dates: different dates have different seeds, and from the year 0 on a later date has a larger one. The stamps
of dates rise with the dates in all years. Without their signs those of the years below 0 are told from the others by
the last four digits, and among themselves they fall. Main statement: `ofDate_injective_increasing`.
-/

namespace NoteMuse

/-! ### Words with a sign -/

section Words

variable {a b : Int64} {m n : Int}

lemma toInt_add_of_fits (ha : a.toInt = m) (hb : b.toInt = n) (hge : -2 ^ 63 ≤ m + n) (hlt : m + n < 2 ^ 63) :
    (a + b).toInt = m + n := by
  rw [Int64.toInt_add, ha, hb]
  exact Int.bmod_eq_of_le hge hlt

lemma toInt_mul_of_fits (ha : a.toInt = m) (hb : b.toInt = n) (hge : -2 ^ 63 ≤ m * n) (hlt : m * n < 2 ^ 63) :
    (a * b).toInt = m * n := by
  rw [Int64.toInt_mul, ha, hb]
  exact Int.bmod_eq_of_le hge hlt

lemma toNat_abs (a : Int64) : a.abs.toUInt64.toNat = a.toInt.natAbs := by
  show a.toBitVec.abs.toNat = a.toBitVec.toInt.natAbs
  have hlt : a.toBitVec.toNat < 2 ^ 64 := a.toBitVec.isLt
  rw [BitVec.toNat_abs, BitVec.toInt_eq_msb_cond]
  split <;> omega

end Words

/-! ### Days of the calendar -/

lemma daysInMonth_le (year : Int) (month : Nat) : daysInMonth year month ≤ 31 := by
  unfold daysInMonth
  split_ifs <;> omega

lemma month_of_daysInMonth_pos {year : Int} {month : Nat} (h : 0 < daysInMonth year month) :
    1 ≤ month ∧ month ≤ 12 := by
  unfold daysInMonth at h
  split_ifs at h with hfebruary hleap hshort hlong
  · omega
  · omega
  · simp only [List.contains_iff_mem, List.mem_cons, List.not_mem_nil, or_false] at hshort
    omega
  · simpa using hlong
  · omega

namespace Date

variable {d e : Date}

/-- Days follow one another by the year, then by the month, then by the day. -/
instance : LT Date where
  lt d e := d.year < e.year ∨ d.year = e.year ∧ (d.month < e.month ∨ d.month = e.month ∧ d.day < e.day)

lemma lt_iff :
    d < e ↔ d.year < e.year ∨ d.year = e.year ∧ (d.month < e.month ∨ d.month = e.month ∧ d.day < e.day) :=
  Iff.rfl

lemma lt_trichotomy (d e : Date) : d < e ∨ d = e ∨ e < d := by
  by_cases h : d.year = e.year ∧ d.month = e.month ∧ d.day = e.day
  · obtain ⟨hyear, hmonth, hday⟩ := h
    exact .inr (.inl (Date.ext hyear hmonth hday))
  · rw [lt_iff, lt_iff]
    omega

theorem bounds (d : Date) : 1 ≤ d.month ∧ d.month ≤ 12 ∧ 1 ≤ d.day ∧ d.day ≤ 31 := by
  obtain ⟨hpos, hle⟩ := month_of_daysInMonth_pos (Nat.lt_of_lt_of_le d.day_pos d.day_le)
  exact ⟨hpos, hle, d.day_pos, Nat.le_trans d.day_le (daysInMonth_le d.year d.month)⟩

def first : Date := ⟨-262143, 1, 1, by decide, by decide, by decide, by decide⟩

def last : Date := ⟨262142, 12, 31, by decide, by decide, by decide, by decide⟩

def yearZero : Date := ⟨0, 1, 1, by decide, by decide, by decide, by decide⟩

/-! ### Stamps as whole numbers -/

/-- The stamp of the date among all whole numbers, where nothing is wrapped. -/
def number (d : Date) : Int := d.year * 10000 + d.month * 100 + d.day

lemma number_bounds (d : Date) : d.year * 10000 + 101 ≤ d.number ∧ d.number ≤ d.year * 10000 + 1231 := by
  have hd := d.bounds
  unfold number
  omega

lemma number_lt_iff : d.number < e.number ↔ d < e := by
  have hd := d.bounds
  have he := e.bounds
  rw [lt_iff]
  unfold number
  omega

lemma eq_of_number (h : d.number = e.number) : d = e := by
  rcases lt_trichotomy d e with hlt | heq | hgt
  · exact absurd h (Int.ne_of_lt (number_lt_iff.mpr hlt))
  · exact heq
  · exact absurd h.symm (Int.ne_of_lt (number_lt_iff.mpr hgt))

/-- The last four digits of a stamp are a month and a day. -/
theorem number_emod (d : Date) : 101 ≤ d.number % 10000 ∧ d.number % 10000 ≤ 1231 := by
  have hd := d.number_bounds
  omega

/-- Two stamps do not add up to nothing: two months and two days do not make a year. -/
theorem number_ne_neg (d e : Date) : d.number ≠ -e.number := by
  intro h
  have hd := d.number_emod
  have he := e.number_emod
  have hsum : (d.number + e.number) % 10000 = 0 := by rw [h, Int.add_left_neg, Int.zero_emod]
  rw [Int.add_emod] at hsum
  omega

lemma eq_of_natAbs_number (h : d.number.natAbs = e.number.natAbs) : d = e :=
  (Int.natAbs_eq_natAbs_iff.mp h).elim eq_of_number fun hneg => absurd hneg (number_ne_neg d e)

/-! ### Stamps as words -/

/-- No step on the way to the seed of the date leaves the 64 bits: each word holds the number that it stands for. -/
structure Fits (d : Date) : Prop where
  year : d.year.toInt64.toInt = d.year
  month : d.month.toInt64.toInt = d.month
  day : d.day.toInt64.toInt = d.day
  years : (d.year.toInt64 * 10000).toInt = d.year * 10000
  months : (d.month.toInt64 * 100).toInt = d.month * 100
  yearsAndMonths : (d.year.toInt64 * 10000 + d.month.toInt64 * 100).toInt = d.year * 10000 + d.month * 100
  stamp : d.stamp.toInt = d.number
  seed : (SessionSeed.ofDate d).value.toNat = d.number.natAbs

lemma fits (d : Date) : d.Fits := by
  have hge := d.year_ge
  have hle := d.year_le
  have hd := d.bounds
  have hyear : d.year.toInt64.toInt = d.year := Int64.toInt_ofInt_of_le (by omega) (by omega)
  have hmonth : d.month.toInt64.toInt = d.month := Int64.toInt_ofNat_of_lt (by omega)
  have hday : d.day.toInt64.toInt = d.day := Int64.toInt_ofNat_of_lt (by omega)
  have h10000 : (10000 : Int64).toInt = 10000 := rfl
  have h100 : (100 : Int64).toInt = 100 := rfl
  have hyears := toInt_mul_of_fits hyear h10000 (by omega) (by omega)
  have hmonths := toInt_mul_of_fits hmonth h100 (by omega) (by omega)
  have hboth := toInt_add_of_fits hyears hmonths (by omega) (by omega)
  have hstamp : d.stamp.toInt = d.number := toInt_add_of_fits hboth hday (by omega) (by omega)
  have hseed : (SessionSeed.ofDate d).value.toNat = d.number.natAbs := by
    rw [← hstamp]
    exact toNat_abs d.stamp
  exact ⟨hyear, hmonth, hday, hyears, hmonths, hboth, hstamp, hseed⟩

end Date

/-! ### Seeds -/

namespace SessionSeed

variable {d e : Date}

lemma value_lt_iff : (ofDate d).value < (ofDate e).value ↔ d.number.natAbs < e.number.natAbs := by
  rw [UInt64.lt_iff_toNat_lt, d.fits.seed, e.fits.seed]

lemma ofDate_lt_iff (hd : 0 ≤ d.year) (he : 0 ≤ e.year) : (ofDate d).value < (ofDate e).value ↔ d < e := by
  -- A stamp has the sign of its year: here both stamps are their own absolute values.
  have hdn := d.number_bounds
  have hen := e.number_bounds
  rw [value_lt_iff, ← Date.number_lt_iff]
  omega

/-- Below the year 0 an earlier date has the larger seed. -/
theorem ofDate_lt_iff_of_neg (hd : d.year < 0) (he : e.year < 0) :
    (ofDate d).value < (ofDate e).value ↔ e < d := by
  have hdn := d.number_bounds
  have hen := e.number_bounds
  rw [value_lt_iff, ← Date.number_lt_iff]
  omega

lemma eq_of_ofDate (h : ofDate d = ofDate e) : d = e := by
  apply Date.eq_of_natAbs_number
  rw [← d.fits.seed, ← e.fits.seed, h]

/-- **Seeds of dates** are different for different dates of all years, and from the year 0 on they rise with the dates.
No step on the way to them leaves the 64 bits. -/
theorem ofDate_injective_increasing :
    (∀ d e : Date, d ≠ e → ofDate d ≠ ofDate e) ∧
    (∀ d e : Date, 0 ≤ d.year → d < e → (ofDate d).value < (ofDate e).value) ∧
    ∀ d : Date, d.Fits := by
  refine ⟨fun d e hne h => hne (eq_of_ofDate h), fun d e hd hlt => ?_, Date.fits⟩
  have he : 0 ≤ e.year := by
    rw [Date.lt_iff] at hlt
    omega
  exact (ofDate_lt_iff hd he).mpr hlt

/-- The ends of the supported years, and the first day of the year 0. The seeds are too large for 32 bits. -/
theorem ofDate_injective_increasing_ends :
    ofDate .first ≠ ofDate .last ∧ (ofDate .yearZero).value < (ofDate .last).value ∧
      Date.last.Fits ∧ (ofDate .first).value = 2621429899 ∧ (ofDate .last).value = 2621421231 := by
  obtain ⟨hdifferent, hrises, hfits⟩ := ofDate_injective_increasing
  exact ⟨hdifferent .first .last (by decide), hrises .yearZero .last (by decide) (Date.lt_iff.mpr (by decide)),
    hfits .last, by decide, by decide⟩

example : (Date.ofNumbers? 2024 3 15).map ofDate = some ⟨20240315⟩ := by decide

end SessionSeed

end NoteMuse
