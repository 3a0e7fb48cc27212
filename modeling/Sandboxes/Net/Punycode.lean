/-!
# Punycode

The ASCII form of a label of a host name: its ASCII characters, then the others as differences of
their numbers and positions, each a numeral in base 36 whose digits have thresholds.
-/

namespace Sandboxes.Net.Punycode

/-- The character of a digit in base 36. -/
def digit (n : Nat) : Char :=
  if n < 26 then Char.ofNat ('a'.toNat + n) else Char.ofNat ('0'.toNat + (n - 26))

/-- The threshold of the digit with index `k`, a multiple of 36. -/
def threshold (k bias : Nat) : Nat :=
  if k ≤ bias then 1 else if bias + 26 ≤ k then 26 else k - bias

/-- Divides a difference down to the range of one digit. -/
def shrink (delta k : Nat) : Nat × Nat :=
  if 455 < delta then shrink (delta / 35) (k + 36) else (delta, k)
termination_by delta
decreasing_by omega

/-- The bias after a difference was written. -/
def adapt (delta count : Nat) (first : Bool) : Nat :=
  let delta := if first then delta / 700 else delta / 2
  let (delta, k) := shrink (delta + delta / count) 0
  k + 36 * delta / (delta + 38)

/-- The digits of a difference, from the least one. `fuel` bounds their number. -/
def numeral (bias : Nat) : (fuel k q : Nat) → List Char
  | 0, _, _ => []
  | fuel + 1, k, q =>
    let t := threshold k bias
    if q < t then [digit q]
    else digit (t + (q - t) % (36 - t)) :: numeral bias fuel (k + 36) ((q - t) / (36 - t))

/-- The state of the coder between two characters. -/
structure State where
  delta : Nat
  bias : Nat
  handled : Nat
  first : Bool

/-- Writes the occurrences of the character number `n` among the characters. -/
def occurrences (n : Nat) : List Nat → State → List Char × State
  | [], s => ([], s)
  | c :: cs, s =>
    if c < n then occurrences n cs { s with delta := s.delta + 1 }
    else if c = n then
      let here := numeral s.bias 40 36 s.delta
      let bias := adapt s.delta (s.handled + 1) s.first
      let (rest, s) := occurrences n cs ⟨0, bias, s.handled + 1, false⟩
      (here ++ rest, s)
    else occurrences n cs s

/-- Writes the characters from number `n` on, the least one first. `left` bounds how many different
ones there are. -/
def characters (cs : List Nat) : (left n : Nat) → State → List Char
  | 0, _, _ => []
  | left + 1, n, s =>
    match (cs.filter (n ≤ ·)).min? with
    | none => []
    | some m =>
      let s := { s with delta := s.delta + (m - n) * (s.handled + 1) }
      let (here, s) := occurrences m cs s
      here ++ characters cs left (m + 1) { s with delta := s.delta + 1 }

/-- The ASCII form of a label. -/
def encode (cs : List Char) : List Char :=
  let basic := cs.filter (·.toNat < 0x80)
  let start := if basic = [] then [] else basic ++ ['-']
  start ++ characters (cs.map Char.toNat) cs.length 0x80 ⟨0, 72, basic.length, true⟩

end Sandboxes.Net.Punycode
