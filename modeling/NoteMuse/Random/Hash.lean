/-!
Hashing bytes to 64 bits by multiplication: a number takes part as a word, a text by the hash of its
bytes and a closing mark.
-/

namespace NoteMuse.Random.Hash

/-- The low half of the product of two words, combined with the high half. -/
def fold (x y : UInt64) : UInt64 :=
  (x * y) ^^^ (x.toNat * y.toNat / UInt64.size).toUInt64

/-- The number that bytes spell, the lowest byte first. -/
def littleEndian (bytes : List UInt8) : UInt64 :=
  bytes.foldr (fun b n => n * 256 + b.toUInt64) 0

/-- The `n` bytes at a place, as a number. -/
def wordAt (bytes : List UInt8) (start n : Nat) : UInt64 :=
  littleEndian ((bytes.drop start).take n)

def seed₀ : UInt64 := 0x243F6A8885A308D3
def seed₁ : UInt64 := 0x13198A2E03707344
def guard : UInt64 := 0xA4093822299F31D0

/-- Mixes blocks of sixteen bytes into two words, as long as bytes are left after the block. -/
def foldBlocks (bytes : List UInt8) (s₀ s₁ : UInt64) : Nat → UInt64 × UInt64
  | 0 => (s₀, s₁)
  | n + 1 =>
    let t := fold (s₀ ^^^ wordAt bytes 0 8) (guard ^^^ wordAt bytes 8 8)
    foldBlocks (bytes.drop 16) s₁ t n

def words (bytes : List UInt8) : UInt64 × UInt64 :=
  let n := bytes.length
  let byte i : UInt64 := ((bytes[i]?).getD 0).toUInt64
  if 16 < n then
    let (s₀, s₁) := foldBlocks bytes seed₀ seed₁ ((n - 1) / 16)
    (s₀ ^^^ wordAt bytes (n - 16) 8, s₁ ^^^ wordAt bytes (n - 8) 8)
  else if 8 ≤ n then (seed₀ ^^^ wordAt bytes 0 8, seed₁ ^^^ wordAt bytes (n - 8) 8)
  else if 4 ≤ n then (seed₀ ^^^ wordAt bytes 0 4, seed₁ ^^^ wordAt bytes (n - 4) 4)
  else if 1 ≤ n then (seed₀ ^^^ byte 0, seed₁ ^^^ ((byte (n - 1) <<< 8) ||| byte (n / 2)))
  else (seed₀, seed₁)

/-- The hash of bytes. -/
def ofBytes (bytes : List UInt8) : UInt64 :=
  let (s₀, s₁) := words bytes
  fold s₀ s₁ ^^^ bytes.length.toUInt64

def add (h x : UInt64) : UInt64 := (h + x) * 0xF1357AEA2E62A9C5

def ofNumberAndText (n : UInt64) (s : String) : UInt64 :=
  let h := add (add (add 0 n) (ofBytes s.toUTF8.toList)) 0xFF
  (h <<< 26) ||| (h >>> 38)

end NoteMuse.Random.Hash
