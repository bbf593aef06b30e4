/-!
Digits and the numbers that they denote.
-/

namespace NoteMuse.Decimal

def isDigit (c : Char) : Bool := '0' ≤ c && c ≤ '9'

def hexValue? (c : Char) : Option Nat :=
  if c.isDigit then some (c.toNat - '0'.toNat)
  else if 'a' ≤ c && c ≤ 'f' then some (c.toNat - 'a'.toNat + 10)
  else if 'A' ≤ c && c ≤ 'F' then some (c.toNat - 'A'.toNat + 10)
  else none

/-- The number that a run of digits denotes, after the digits read so far. -/
def valueFrom (n : Nat) (cs : List Char) : Nat :=
  cs.foldl (fun n c => 10 * n + (c.toNat - '0'.toNat)) n

def value (cs : List Char) : Nat := valueFrom 0 cs

/-- A natural number below `limit`, written with digits only. -/
def readNat? (limit : Nat) (cs : List Char) : Option Nat :=
  if !cs.isEmpty && cs.all isDigit && value cs < limit then some (value cs) else none

/-- A natural number below `limit`; a plus sign may stand before its digits. -/
def readCount? (limit : Nat) (s : String) : Option Nat :=
  match s.toList with
  | '+' :: rest => readNat? limit rest
  | cs => readNat? limit cs

def readSign : List Char → Bool × List Char
  | '-' :: rest => (true, rest)
  | '+' :: rest => (false, rest)
  | cs => (false, cs)

/-- A signed 64-bit number: an optional sign, then digits. -/
def readInt64? (cs : List Char) : Option Int64 :=
  let (negative, digits) := readSign cs
  if negative then (readNat? (UInt64.size / 2 + 1) digits).map fun n => Int64.ofInt (-n)
  else (readNat? (UInt64.size / 2) digits).map fun n => Int64.ofNat n

/-- The digits of a natural number, most significant first. -/
def digits (n : Nat) : List Char := Nat.toDigits 10 n

def intText (n : Int) : String :=
  if n < 0 then String.ofList ('-' :: digits n.natAbs) else String.ofList (digits n.natAbs)

end NoteMuse.Decimal
