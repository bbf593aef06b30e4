/-!
Geists, as an engine keeps track of them: where each comes from, whether it is enabled, and how its
last turns ended. A failure that makes the streak of failures long enough disables the geist.
-/

namespace NoteMuse.Geist

inductive Kind where
  /-- By a program of the host. -/
  | code
  /-- By expanding a grammar. -/
  | grammar
  deriving DecidableEq, Repr

def Kind.label : Kind → String
  | code => "code"
  | grammar => "grammar"

/-- Identity and health of a geist. -/
structure Descriptor where
  id : String
  kind : Kind
  sourceRef : String
  enabled : Bool
  /-- The number of failures since the last success, as far as it is counted. -/
  failures : UInt32
  lastError : Option String
  deriving DecidableEq, Repr

/-- The next number of failures; the largest one is its own successor. -/
def oneMore (n : UInt32) : UInt32 := if n.toNat + 1 < UInt32.size then n + 1 else n

theorem toNat_oneMore (n : UInt32) : (oneMore n).toNat = min (n.toNat + 1) (UInt32.size - 1) := by
  have h := n.toNat_lt
  unfold oneMore
  split <;> simp [UInt32.toNat_add, UInt32.size] at * <;> omega

namespace Descriptor

/-- A geist that is enabled and has not failed. -/
def new (id : String) (kind : Kind) (sourceRef : String) : Descriptor where
  id := id
  kind := kind
  sourceRef := sourceRef
  enabled := true
  failures := 0
  lastError := none

def recordSuccess (d : Descriptor) : Descriptor := { d with failures := 0, lastError := none }

/-- A failure, and whether it disables the geist, which was enabled so far. -/
def recordFailure (message : String) (threshold : UInt32) (d : Descriptor) : Descriptor × Bool :=
  let failures := oneMore d.failures
  let disables := d.enabled && decide (threshold ≤ failures)
  ({ d with failures, lastError := some message, enabled := d.enabled && !disables }, disables)

end Descriptor

end NoteMuse.Geist
