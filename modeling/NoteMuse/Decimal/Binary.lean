/-!
Binary floating point as bit patterns: the pattern of the number of a format nearest to a quotient
of natural numbers, a tie going to the even pattern.
-/

namespace NoteMuse.Decimal

/-- A format: its precision in bits, the exponent of its smallest positive number, and the pattern
of infinity. -/
structure BinaryFormat where
  precision : Nat
  leastExponent : Int
  infinity : Nat

namespace BinaryFormat

def single : BinaryFormat := ⟨24, -149, 0x7F800000⟩

def double : BinaryFormat := ⟨53, -1074, 0x7FF0000000000000⟩

/-- The quotient rounded to a whole number, half to even. -/
def roundDiv (num den : Nat) : Nat :=
  let q := num / den
  let r := num % den
  if 2 * r < den then q else if den < 2 * r then q + 1 else q + q % 2

/-- The exponent of the last place of the numbers nearest to `num / den`, or one below it. -/
def exponentNear (f : BinaryFormat) (num den : Nat) : Int :=
  max f.leastExponent ((num.log2 : Int) - (den.log2 : Int) - f.precision)

/-- `num / den` in units of `2 ^ e`. -/
def scaled (num den : Nat) (e : Int) : Nat × Nat :=
  if 0 ≤ e then (num, den * Nat.pow 2 e.toNat) else (num * Nat.pow 2 (-e).toNat, den)

/-- The pattern, without sign, of the number nearest to `num / den`. -/
def nearest (f : BinaryFormat) (num den : Nat) : Nat :=
  if num = 0 then 0
  else
    let e₀ := f.exponentNear num den
    let (n₀, d₀) := scaled num den e₀
    let e := if n₀ / d₀ < Nat.pow 2 f.precision then e₀ else e₀ + 1
    let (n, d) := scaled num den e
    let unit := Nat.pow 2 (f.precision - 1)
    min f.infinity ((e - f.leastExponent).toNat * unit + roundDiv n d)

def wholeNear (f : BinaryFormat) (n : Nat) : Nat :=
  let unit := Nat.pow 2 (n.log2 + 1 - f.precision)
  roundDiv n unit * unit

end BinaryFormat

/-- A number of 32 bits. -/
structure Single where
  bits : UInt32
  deriving DecidableEq, Repr

/-- The single nearest to a quotient of natural numbers; zero when the divisor is zero. -/
def Single.ofRatio (num den : Nat) : Single :=
  ⟨(if den = 0 then 0 else BinaryFormat.single.nearest num den).toUInt32⟩

/-- Order of the numbers that are not negative. -/
instance : LT Single := ⟨fun a b => a.bits < b.bits⟩

instance (a b : Single) : Decidable (a < b) := inferInstanceAs (Decidable (a.bits < b.bits))

end NoteMuse.Decimal
