import NoteMuse.Decimal.Digits

/-!
The fewest decimal digits that read back as a binary number: the coarsest decimal grid with a point
inside the interval that rounds to the number, and of two such points the nearer one.
-/

namespace NoteMuse.Decimal

/-- A positive binary number and the interval that rounds to it, as numerators over one divisor. -/
structure RoundingInterval where
  low : Nat
  mid : Nat
  high : Nat
  den : Nat
  /-- The two ends round to the number as well. -/
  closed : Bool

namespace RoundingInterval

/-- The interval of `m * 2 ^ q`. Below a power of two (`narrow`) the numbers are twice as dense. -/
def ofBinary (m : Nat) (q : Int) (narrow : Bool) : RoundingInterval :=
  let u := Nat.pow 2 (q - 2).toNat
  { low := (4 * m - if narrow then 1 else 2) * u
    mid := 4 * m * u
    high := (4 * m + 2) * u
    den := Nat.pow 2 (2 - q).toNat
    closed := m % 2 = 0 }

/-- `a * 10 ^ g` lies in the interval. -/
def holds (i : RoundingInterval) (a : Nat) (g : Int) : Bool :=
  let p := a * Nat.pow 10 g.toNat * i.den
  let s := Nat.pow 10 (-g).toNat
  if i.closed then i.low * s ≤ p && p ≤ i.high * s else i.low * s < p && p < i.high * s

/-- The point of the grid of `10 ^ g` that stands for the number. Of two points inside the
interval it is the nearer one, the upper one when both are as near. -/
def onGrid (i : RoundingInterval) (g : Int) : Option Nat :=
  let num := i.mid * Nat.pow 10 (-g).toNat
  let den := i.den * Nat.pow 10 g.toNat
  let a := num / den
  match i.holds a g, i.holds (a + 1) g with
  | true, true => some (if 2 * (num % den) < den then a else a + 1)
  | true, false => some a
  | false, true => some (a + 1)
  | false, false => none

/-- The first grid with a point, from `10 ^ g` on towards finer ones, at most `n` of them. -/
def search (i : RoundingInterval) : Nat → Int → Nat × Int
  | 0, g => (i.mid * Nat.pow 10 (-g).toNat / (i.den * Nat.pow 10 g.toNat), g)
  | n + 1, g =>
    match i.onGrid g with
    | some a => (a, g)
    | none => search i n (g - 1)

/-- The exponent of the first digit of the number. -/
def leadExponent (i : RoundingInterval) : Int :=
  let e : Int := ((digits i.mid).length : Int) - ((digits i.den).length : Int)
  if i.den * Nat.pow 10 e.toNat ≤ i.mid * Nat.pow 10 (-e).toNat then e else e - 1

/-- Digits `a` and exponent `g` of the shortest decimal `a * 10 ^ g`. -/
def shortest (i : RoundingInterval) : Nat × Int := i.search 18 (i.leadExponent + 1)

end RoundingInterval

/-- `a * 10 ^ g` with a decimal point and no exponent. -/
def positional (a : Nat) (g : Int) : List Char :=
  if 0 ≤ g then digits a ++ List.replicate g.toNat '0'
  else
    let k := (-g).toNat
    let ds := digits a
    let padded := List.replicate (k + 1 - ds.length) '0' ++ ds
    padded.take (padded.length - k) ++ '.' :: padded.drop (padded.length - k)

end NoteMuse.Decimal
