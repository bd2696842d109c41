import HttpEngine.Time.Duration

/-! Points in time on a clock that never goes back. -/

namespace HttpEngine

/-- A point in time: the nanoseconds that the clock has counted. -/
structure Instant where
  nanos : Nat
  deriving DecidableEq, Repr, Inhabited

namespace Instant

/-- The clock counts seconds in a signed word of sixty-four bits. -/
def secsLimit : Nat := 0x8000000000000000

/-- The point that lies a length of time later, if the clock can still count it. -/
def add? (t : Instant) (d : Duration) : Option Instant :=
  let sum := t.nanos + d.nanos
  if sum / 1000000000 < secsLimit then some ⟨sum⟩ else none

/-- One point is no later than another. -/
def notAfter (a b : Instant) : Bool := decide (a.nanos ≤ b.nanos)

/-- The earlier of two points. -/
def earlier (a b : Instant) : Instant := if a.nanos ≤ b.nanos then a else b

/-- The earliest of some points. -/
def earliest? : List Instant → Option Instant
  | [] => none
  | t :: rest => some (rest.foldl earlier t)

end Instant

end HttpEngine
