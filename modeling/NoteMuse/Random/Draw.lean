import NoteMuse.Random.Stream

/-!
Draws from a generator: a number below a bound, an element of a list, and a shuffled list. Main
facts: a number that is drawn is below its bound.
-/

namespace NoteMuse.Random

/-- A value that depends on a generator and moves it on. -/
abbrev Draw := StateM Generator

/-! ### Words -/

/-- A way to read words of so many bits from a stream. -/
structure Words where
  width : Nat
  next : Generator → Nat × Generator
  next_lt : ∀ g, (next g).1 < Nat.pow 2 width

def words32 : Words where
  width := 32
  next g := let (v, g) := g.next32; (v.toNat, g)
  next_lt g := g.next32.1.toNat_lt

def words64 : Words where
  width := 64
  next g := let (v, g) := g.next64; (v.toNat, g)
  next_lt g := g.next64.1.toNat_lt

/-- The number of words of a stream before it repeats. It bounds draws that are made until one is good: when
none is in a whole period, no later one is, and the drawing would not end. Such a period is not met, since
a word is good with a chance of at least a half, and a place in a list with a chance of at least one in its
length; that there is an answer to it makes the definitions total. -/
def period : Nat := Nat.pow 2 68

/-! ### Numbers below a bound -/

namespace Words

variable {w : Words} {zone n : Nat}

/-- The number below `n` that a word stands for: the high part of its product with `n`. The low
part tells whether the word falls into the uneven rest, which is above `zone`. -/
def accept? (w : Words) (zone n v : Nat) : Option Nat :=
  if v * n % Nat.pow 2 w.width ≤ zone then some (v * n / Nat.pow 2 w.width) else none

/-- Draws words until one is accepted, at most as many as a stream has before it repeats. -/
def drawUntil (w : Words) (zone n : Nat) : Nat → Draw Nat
  -- a whole period without a word that is accepted
  | 0 => fun g => ((w.next g).1 * n / Nat.pow 2 w.width, g)
  | tries + 1 => fun g =>
    let (v, g) := w.next g
    match w.accept? zone n v with
    | some r => (r, g)
    | none => drawUntil w zone n tries g

/-- A number below `n` by a zone that is quickly found and may leave out more than the uneven rest.
A bound of 1 takes draws as well. -/
def below (w : Words) (n : Nat) : Draw Nat :=
  w.drawUntil (n * Nat.pow 2 (w.width - 1 - n.log2) - 1) n period

/-- A number below `n` by the zone that leaves out the uneven rest and nothing else. -/
def evenBelow (w : Words) (n : Nat) : Draw Nat :=
  w.drawUntil (Nat.pow 2 w.width - 1 - Nat.pow 2 w.width % n) n period

theorem mul_div_lt {m v : Nat} (hn : 0 < n) (hv : v < m) : v * n / m < n := by
  rw [Nat.div_lt_iff_lt_mul (Nat.zero_lt_of_lt hv), Nat.mul_comm n]
  exact Nat.mul_lt_mul_of_pos_right hv hn

theorem accept?_lt {v r : Nat} (hn : 0 < n) (hv : v < Nat.pow 2 w.width)
    (h : w.accept? zone n v = some r) : r < n := by
  simp only [accept?] at h
  split at h
  · obtain rfl := Option.some.inj h
    exact mul_div_lt hn hv
  · cases h

theorem drawUntil_lt (hn : 0 < n) (tries : Nat) (g : Generator) :
    (w.drawUntil zone n tries g).1 < n := by
  induction tries generalizing g with
  | zero => exact mul_div_lt hn (w.next_lt g)
  | succ t ih =>
    simp only [drawUntil]
    split
    · next r hr => exact accept?_lt hn (w.next_lt g) hr
    · exact ih _

theorem below_lt (hn : 0 < n) (g : Generator) : (w.below n g).1 < n := drawUntil_lt hn period g

theorem evenBelow_lt (hn : 0 < n) (g : Generator) : (w.evenBelow n g).1 < n :=
  drawUntil_lt hn period g

end Words

def below64 (n : Nat) : Draw Nat := words64.below n

def below32 (n : Nat) : Draw Nat := words32.below n

/-- A place in a list of `n` elements, drawn by words of 32 bits where `n` is such a word. -/
def placeBelow (n : Nat) : Draw Nat := if n < UInt32.size then below32 n else below64 n

theorem below64_lt {n : Nat} (hn : 0 < n) (g : Generator) : (below64 n g).1 < n :=
  Words.below_lt hn g

theorem below32_lt {n : Nat} (hn : 0 < n) (g : Generator) : (below32 n g).1 < n :=
  Words.below_lt hn g

theorem placeBelow_lt {n : Nat} (hn : 0 < n) (g : Generator) : (placeBelow n g).1 < n := by
  unfold placeBelow
  split
  · exact below32_lt hn g
  · exact below64_lt hn g

/-! ### Elements -/

/-- An element of a list; none, and no draw, when the list is empty. -/
def choose? {α : Type} (xs : List α) : Draw (Option α) :=
  if xs.isEmpty then pure none
  else do
    let i ← placeBelow xs.length
    return xs[i]?

/-- Swaps each of the places `i`, `i - 1`, … 1 with one that is not after it. -/
def shuffleFrom {α : Type} : Nat → Array α → Draw (Array α)
  | 0, xs => pure xs
  | i + 1, xs => do
    let j ← placeBelow (i + 2)
    shuffleFrom i (xs.swapIfInBounds (i + 1) j)

def shuffle {α : Type} (xs : List α) : Draw (List α) := do
  let ys ← shuffleFrom (xs.length - 1) xs.toArray
  return ys.toList

end NoteMuse.Random
