/-!
An unlimited sequence of 32-bit words for every key: the ChaCha cipher with twelve rounds, its blocks
one after another.
-/

namespace NoteMuse.Random

/-! ### The block function -/

abbrev Block := Vector UInt32 16

/-- The word with its bits turned to the left by `k` places, `0 < k < 32`. -/
def rotateLeft (x k : UInt32) : UInt32 := (x <<< k) ||| (x >>> (32 - k))

def quarterRound (a b c d : Fin 16) (s : Block) : Block :=
  let s := s.set a (s[a] + s[b])
  let s := s.set d (rotateLeft (s[d] ^^^ s[a]) 16)
  let s := s.set c (s[c] + s[d])
  let s := s.set b (rotateLeft (s[b] ^^^ s[c]) 12)
  let s := s.set a (s[a] + s[b])
  let s := s.set d (rotateLeft (s[d] ^^^ s[a]) 8)
  let s := s.set c (s[c] + s[d])
  s.set b (rotateLeft (s[b] ^^^ s[c]) 7)

/-- A round on the columns, then one on the diagonals. -/
def doubleRound (s : Block) : Block :=
  let s := quarterRound 0 4 8 12 s
  let s := quarterRound 1 5 9 13 s
  let s := quarterRound 2 6 10 14 s
  let s := quarterRound 3 7 11 15 s
  let s := quarterRound 0 5 10 15 s
  let s := quarterRound 1 6 11 12 s
  let s := quarterRound 2 7 8 13 s
  quarterRound 3 4 9 14 s

/-- The secret of a stream. -/
abbrev Key := Vector UInt32 8

/-- The block before its rounds: four constants, the key, a 64-bit counter and no nonce. -/
def initialBlock (key : Key) (counter : Nat) : Block :=
  (#v[0x61707865, 0x3320646E, 0x79622D32, 0x6B206574] : Vector UInt32 4) ++ key ++
    (#v[counter.toUInt32, (counter / UInt32.size).toUInt32, 0, 0] : Vector UInt32 4)

def block (key : Key) (counter : Nat) : Block :=
  let start := initialBlock key counter
  Vector.zipWith (· + ·) (Nat.repeat doubleRound 6 start) start

/-! ### Generators -/

/-- A stream of words and the place in it that is read next. -/
structure Generator where
  key : Key
  position : Nat
  deriving DecidableEq, Repr

namespace Generator

/-- The word at a place of the stream. -/
def wordAt (g : Generator) (i : Nat) : UInt32 :=
  (block g.key (i / 16))[i % 16]

/-- The multiplier and the increment of the sequence that fills a key. -/
def keyStep (state : UInt64) : UInt64 := state * 6364136223846793005 + 11634580027462260723

/-- The word that a state gives: its high bits, mixed and turned by its highest ones. -/
def keyWord (state : UInt64) : UInt32 :=
  let x := (((state >>> 18) ^^^ state) >>> 27).toUInt32
  let k := (state >>> 59).toUInt32
  (x >>> k) ||| (x <<< (32 - k))

/-- The states of the sequence that fills a key. -/
def keyState (seed : UInt64) : Nat → UInt64
  | 0 => seed
  | n + 1 => keyStep (keyState seed n)

/-- The generator of a seed, at the beginning of its stream. -/
def ofSeed (seed : UInt64) : Generator :=
  ⟨Vector.ofFn fun i : Fin 8 => keyWord (keyState seed (i + 1)), 0⟩

def next32 (g : Generator) : UInt32 × Generator :=
  (g.wordAt g.position, { g with position := g.position + 1 })

/-- The next two words, the low one first. -/
def next64 (g : Generator) : UInt64 × Generator :=
  ((g.wordAt (g.position + 1)).toUInt64 <<< 32 ||| (g.wordAt g.position).toUInt64,
    { g with position := g.position + 2 })

end Generator

end NoteMuse.Random
