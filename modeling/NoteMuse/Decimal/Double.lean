import NoteMuse.Decimal.Binary
import NoteMuse.Decimal.Shortest

/-!
Numbers of 64 bits: reading decimal text, and writing the fewest digits that read back, never with
an exponent.
-/

namespace NoteMuse.Decimal

/-- A number of 64 bits. -/
structure Double where
  bits : UInt64
  deriving DecidableEq, Repr

namespace Double

def ofPattern (negative : Bool) (pattern : Nat) : Double :=
  ⟨(if negative then UInt64.size / 2 + pattern else pattern).toUInt64⟩

def nan : Double := ofPattern false 0x7FF8000000000000

/-- The pattern of the number nearest to `m * 10 ^ e`. Exponents far outside the format are answered
without the power. -/
def patternOf (m : Nat) (e : Int) : Nat :=
  let lead := (digits m).length + e
  if m = 0 || lead < -324 then 0
  else if 310 < lead then BinaryFormat.double.infinity
  else BinaryFormat.double.nearest (m * Nat.pow 10 e.toNat) (Nat.pow 10 (-e).toNat)

/-! ### Reading -/

def readExponent? : List Char → Option Int
  | [] => some 0
  | c :: rest =>
    if c = 'e' || c = 'E' then
      let (negative, ds) := readSign rest
      if !ds.isEmpty && ds.all isDigit then some (if negative then -(value ds) else value ds)
      else none
    else none

/-- The digits after a decimal point, when there is one, and what follows them. -/
def readFraction : List Char → List Char × List Char
  | '.' :: rest => (rest.takeWhile isDigit, rest.dropWhile isDigit)
  | cs => ([], cs)

def readPattern? (cs : List Char) : Option Nat :=
  let whole := cs.takeWhile isDigit
  let (fraction, rest) := readFraction (cs.dropWhile isDigit)
  if whole.isEmpty && fraction.isEmpty then none
  else
    (readExponent? rest).map fun e =>
      patternOf (value (whole ++ fraction)) (e - fraction.length)

/-- The words for what is no finite number, in small letters. -/
def wordPattern? (cs : List Char) : Option Nat :=
  let w := String.ofList (cs.map Char.toLower)
  if w = "inf" || w = "infinity" then some BinaryFormat.double.infinity
  else if w = "nan" then some 0x7FF8000000000000
  else none

def read? (cs : List Char) : Option Double :=
  let (negative, rest) := readSign cs
  ((wordPattern? rest).or (readPattern? rest)).map (ofPattern negative)

/-! ### Writing -/

def patternText (p : Nat) : List Char :=
  let fraction : Nat := p % Nat.pow 2 52
  let exponent : Nat := p / Nat.pow 2 52
  if p = 0 then ['0']
  else if exponent = 2047 then if fraction = 0 then "inf".toList else "NaN".toList
  else
    let i :=
      if exponent = 0 then RoundingInterval.ofBinary fraction (-1074) false
      else RoundingInterval.ofBinary (Nat.pow 2 52 + fraction) ((exponent : Int) - 1075)
        (fraction = 0 && 1 < exponent)
    positional i.shortest.1 i.shortest.2

/-- The text of a number; a negative one, zero too, has a minus sign. -/
def text (x : Double) : String :=
  let n := x.bits.toNat
  let p := n % (UInt64.size / 2)
  String.ofList (if n < UInt64.size / 2 || BinaryFormat.double.infinity < p then patternText p
    else '-' :: patternText p)

end Double

end NoteMuse.Decimal
