import Mathlib.Tactic.Lemma
import Sandboxes.Duration

/-!
# Multiples of durations

A duration is the number of its nanoseconds. Seconds and nanoseconds that are multiplied apart from each
other, with a carry, are those of the whole number multiplied, up to the longest duration.
-/

namespace Sandboxes.Duration

variable {d : Duration} {n : Nat}

/-- All nanoseconds of a duration. -/
def total (d : Duration) : Nat :=
  d.seconds * 10 ^ 9 + d.nanos

lemma seconds_eq (d : Duration) : d.seconds = d.total / 10 ^ 9 := by
  have := d.nanos_lt
  unfold total
  omega

lemma total_ofMillis (n : UInt64) : (ofMillis n).total = n.toNat * 10 ^ 6 := by
  simp only [total, ofMillis]
  omega

/-- The carry goes from the nanoseconds to the seconds. -/
lemma total_mul (d : Duration) (n : Nat) :
    (d.seconds * n + d.nanos * n / 10 ^ 9) * 10 ^ 9 + d.nanos * n % 10 ^ 9 = d.total * n := by
  have parts : d.nanos * n = d.nanos * n / 10 ^ 9 * 10 ^ 9 + d.nanos * n % 10 ^ 9 :=
    (Nat.div_add_mod' ..).symm
  calc (d.seconds * n + d.nanos * n / 10 ^ 9) * 10 ^ 9 + d.nanos * n % 10 ^ 9
      = d.seconds * n * 10 ^ 9 + (d.nanos * n / 10 ^ 9 * 10 ^ 9 + d.nanos * n % 10 ^ 9) := by
        rw [Nat.add_mul, Nat.add_assoc]
    _ = d.seconds * 10 ^ 9 * n + d.nanos * n := by rw [← parts, Nat.mul_right_comm]
    _ = d.total * n := (Nat.add_mul ..).symm

/-- The product of the nanoseconds fits in 64 bits. -/
lemma nanos_mul_lt (d : Duration) (h : n < 2 ^ 32) : d.nanos * n < 2 ^ 64 := by
  have := d.nanos_lt
  calc d.nanos * n ≤ 10 ^ 9 * 2 ^ 32 := Nat.mul_le_mul (Nat.le_of_lt this) (Nat.le_of_lt h)
    _ < 2 ^ 64 := by decide

/-- Multiplication is exact below the longest duration, and stops there. -/
theorem total_times (d : Duration) (n : Nat) :
    (d.times n).total = min longest.total (d.total * n) := by
  have exact := total_mul d n
  have below : d.nanos * n % 10 ^ 9 < 10 ^ 9 := Nat.mod_lt _ (by decide)
  have most : longest.total = (2 ^ 64 - 1) * 10 ^ 9 + (10 ^ 9 - 1) := rfl
  unfold times
  dsimp only
  split
  · refine exact.trans (Nat.min_eq_right ?_).symm
    omega
  · omega

lemma seconds_times (d : Duration) (n : Nat) :
    (d.times n).seconds = min (2 ^ 64 - 1) (d.total * n / 10 ^ 9) := by
  have most : longest.total = (2 ^ 64 - 1) * 10 ^ 9 + (10 ^ 9 - 1) := rfl
  rw [seconds_eq, total_times]
  omega

end Sandboxes.Duration
