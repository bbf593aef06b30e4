import NoteMuse.Decimal.Binary
import NoteMuse.Random.Draw

/-!
Several elements of a list at different places. The places are drawn in one of three ways, whichever
is fast for their number and the length of the list: a list of all places is shuffled as far as it
is needed, or a sample grows number by number, each below a bound that rises with it, or numbers are
drawn until enough of them are different.
-/

namespace NoteMuse.Random

open Decimal

/-! ### Shuffling in place -/

/-- Swaps each of the places `i`, `i + 1`, … with one that is not before it, `k` times. -/
def swapForward (i : Nat) : Nat → Array Nat → Draw (Array Nat)
  | 0, xs => pure xs
  | k + 1, xs => do
    let j ← below32 (xs.size - i)
    swapForward (i + 1) k (xs.swapIfInBounds i (i + j))

/-! ### Growing -/

/-- Puts `x` before the first occurrence of `t`, or `t` at the end when it does not occur. -/
def insertNew (t x : Nat) : List Nat → List Nat
  | [] => [t]
  | y :: ys => if y = t then x :: y :: ys else y :: insertNew t x ys

/-- Puts `t` at the end, or `x` when `t` occurs. -/
def appendNew (t x : Nat) (xs : List Nat) : List Nat :=
  xs ++ [if xs.contains t then x else t]

/-- Adds one number for each of `j`, `j + 1`, …, `k` of them: a drawn one that is not above it,
or itself. -/
def growSample (add : Nat → Nat → List Nat → List Nat) (j : Nat) : Nat → List Nat → Draw (List Nat)
  | 0, xs => pure xs
  | k + 1, xs => do
    let t ← below32 (j + 1)
    growSample add (j + 1) k (add t j xs)

/-! ### Drawing again -/

/-- The least number that is not in the list. -/
def leastAbsent (xs : List Nat) : Nat :=
  ((List.range (xs.length + 1)).find? fun i => !xs.contains i).getD 0

/-- Draws numbers below `n` until one is not in the list, at most as many as a stream has words
before it repeats. -/
def drawAbsent (w : Words) (n : Nat) (xs : List Nat) : Nat → Draw Nat
  -- each try takes a word at least, so the stream has repeated and gave nothing but numbers of the list
  | 0 => pure (leastAbsent xs)
  | tries + 1 => do
    let i ← w.evenBelow n
    if xs.contains i then drawAbsent w n xs tries else pure i

/-- Adds `k` numbers below `n` that are not in the list yet. -/
def collect (w : Words) (n : Nat) : Nat → List Nat → Draw (List Nat)
  | 0, xs => pure xs
  | k + 1, xs => do
    let i ← drawAbsent w n xs period
    collect w n k (xs ++ [i])

/-! ### Samples -/

/-- Samples of this size and above do not grow number by number. -/
def growLimit : Nat := 163

def longLength : Nat := 500000

/-- `k` of `n` places are cut from a list of all of them when `k` is not small beside `n`. For long
lists both sides are rounded to singles, and the factor is the single nearest to 110 / 3. -/
def shufflesInPlace (k n : Nat) : Bool :=
  if k < growLimit then 11 < k && 5 * n < (50 + 8 * k) * k
  else if n < longLength then n < 270 * k
  else Single.ofRatio n 1 < Single.ofRatio (9611947 * BinaryFormat.single.wholeNear k) (Nat.pow 2 18)

/-- `k` different numbers below `n`, in a drawn order; `k` is at most `n`. -/
def sampleIndices (k n : Nat) : Draw (List Nat) :=
  if UInt32.size ≤ n then collect words64 n k []
  else if shufflesInPlace k n then do
    let xs ← swapForward 0 k (Array.range n)
    return xs.toList.take k
  else if k < 50 then growSample insertNew (n - k) k []
  else if k < growLimit then do
    let xs ← growSample appendNew (n - k) k []
    shuffle xs
  else collect words32 n k []

/-- `k` elements of the list at different places, all of them when `k` is larger. -/
def sample {α : Type} (k : Nat) (xs : List α) : Draw (List α) := do
  let is ← sampleIndices (min k xs.length) xs.length
  return is.filterMap fun i => xs[i]?

end NoteMuse.Random
