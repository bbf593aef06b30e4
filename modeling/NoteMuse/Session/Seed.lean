import NoteMuse.Random.Draw
import NoteMuse.Random.Hash

/-!
The seed of a session, taken from a date or given as a number. Every geist draws from a generator of
its own, made of the seed and its id, so that no geist changes what another one draws.
-/

namespace NoteMuse

/-! ### Dates -/

/-- The number of days of a month of the Gregorian calendar; none for a number that is no month. -/
def daysInMonth (year : Int) (month : Nat) : Nat :=
  if month = 2 then if year % 4 = 0 && (year % 100 ≠ 0 || year % 400 = 0) then 29 else 28
  else if [4, 6, 9, 11].contains month then 30
  else if 1 ≤ month && month ≤ 12 then 31
  else 0

/-- A day of the Gregorian calendar, which is continued before its introduction. -/
@[ext]
structure Date where
  year : Int
  month : Nat
  day : Nat
  year_ge : -262143 ≤ year
  year_le : year ≤ 262142
  day_pos : 1 ≤ day
  day_le : day ≤ daysInMonth year month
  deriving DecidableEq

/-- The day with these numbers. -/
def Date.ofNumbers? (year : Int) (month day : Nat) : Option Date :=
  if h : -262143 ≤ year ∧ year ≤ 262142 ∧ 1 ≤ day ∧ day ≤ daysInMonth year month then
    some ⟨year, month, day, h.1, h.2.1, h.2.2.1, h.2.2.2⟩
  else none

/-- Year, month and day written one after another, as a word with a sign. -/
def Date.stamp (d : Date) : Int64 :=
  d.year.toInt64 * 10000 + d.month.toInt64 * 100 + d.day.toInt64

/-! ### Seeds -/

/-- The number that decides all draws of a session. -/
structure SessionSeed where
  value : UInt64
  deriving DecidableEq, Repr

namespace SessionSeed

/-- The stamp of a date without its sign. -/
def ofDate (d : Date) : SessionSeed := ⟨d.stamp.abs.toUInt64⟩

/-- The generator from which a geist draws in this session. -/
def generatorFor (s : SessionSeed) (id : String) : Random.Generator :=
  .ofSeed (Random.Hash.ofNumberAndText s.value id)

def text (s : SessionSeed) : String := toString s.value.toNat

end SessionSeed

end NoteMuse
