import Sandboxes.Number.Power

/-!
# Durations

A span of time as whole seconds and nanoseconds, with at most `2 ^ 64 - 1` seconds. Multiplication
carries from the nanoseconds into the seconds and stops at the longest duration.
-/

namespace Sandboxes

/-- A span of time below `2 ^ 64` seconds. -/
structure Duration where
  seconds : Nat
  nanos : Nat
  seconds_lt : seconds < 2 ^ 64
  nanos_lt : nanos < 10 ^ 9
  deriving DecidableEq, Repr

namespace Duration

/-- The longest duration. -/
def longest : Duration where
  seconds := 2 ^ 64 - 1
  nanos := 10 ^ 9 - 1
  seconds_lt := by decide
  nanos_lt := by decide

/-- That many seconds. -/
def ofSeconds (n : UInt64) : Duration where
  seconds := n.toNat
  nanos := 0
  seconds_lt := n.toNat_lt
  nanos_lt := by decide

/-- That many thousandths of a second. -/
def ofMillis (n : UInt64) : Duration where
  seconds := n.toNat / 1000
  nanos := n.toNat % 1000 * 10 ^ 6
  seconds_lt := Nat.lt_of_le_of_lt (Nat.div_le_self _ _) n.toNat_lt
  nanos_lt := by omega

/-- The duration taken `n` times, or the longest one where that is longer still. -/
def times (d : Duration) (n : Nat) : Duration :=
  let nanos := d.nanos * n
  let seconds := d.seconds * n + nanos / 10 ^ 9
  if h : seconds < 2 ^ 64 then
    ⟨seconds, nanos % 10 ^ 9, h, Nat.mod_lt _ (by decide)⟩
  else longest

/-- The whole thousandths of a second. -/
def millis (d : Duration) : Nat :=
  d.seconds * 1000 + d.nanos / 10 ^ 6

end Duration

end Sandboxes
