import Sandboxes.Number.Double

/-!
# Shortest decimals

The decimal with the fewest digits that reads back as a given double precision number, and of those
the nearest one. A decimal reads back when it lies between the halves of the ways to the neighbours,
the ends included for an even mantissa. On the grid of the decimals with a given last place, only
the two neighbours of the exact value need to be tried.
-/

namespace Sandboxes.Double

/-- A magnitude and the ends of the interval that rounds to it, over one denominator. -/
structure Interval where
  low : Nat
  value : Nat
  high : Nat
  denominator : Nat
  closed : Bool
  deriving Repr

/-- The interval of the numbers that round to a magnitude. -/
def interval (bits : Nat) : Interval :=
  let (mantissa, exponent) := unpack bits
  let step := 2 ^ exponent
  let below := if mantissa = 2 ^ 52 ∧ 0 < exponent then 1 else 2
  { low := (4 * mantissa - below) * step
    value := 4 * mantissa * step
    high := (4 * mantissa + 2) * step
    denominator := 4 * 2 ^ 1074
    closed := mantissa % 2 = 0 }

/-- Whether `n / d` lies in the interval. -/
def Interval.holds (i : Interval) (n d : Nat) : Bool :=
  let point := n * i.denominator
  if i.closed then i.low * d ≤ point && point ≤ i.high * d
  else i.low * d < point && point < i.high * d

/-- The number `digits · 10 ^ place`. -/
structure Decimal where
  digits : Nat
  place : Int
  deriving DecidableEq, Repr

/-- A power of ten as a ratio. -/
def tenTo (place : Int) : Nat × Nat :=
  if 0 ≤ place then (10 ^ place.toNat, 1) else (1, 10 ^ (-place).toNat)

/-- The neighbour of the value on the grid with that last place, if it lies in the interval; of two
that do, the nearer one, and between equally near ones the even one. -/
def Interval.onGrid? (i : Interval) (place : Int) : Option Decimal :=
  let (n, d) := tenTo place
  let below := i.value * d / (i.denominator * n)
  let above := below + 1
  let doubled := 2 * i.value * d
  let middle := (below + above) * n * i.denominator
  let nearBelow := decide (doubled < middle ∨ (doubled = middle ∧ below % 2 = 0))
  match i.holds (below * n) d, i.holds (above * n) d with
  | true, true => some ⟨if nearBelow then below else above, place⟩
  | true, false => some ⟨below, place⟩
  | false, true => some ⟨above, place⟩
  | false, false => none

/-- The number of decimal digits of a number. -/
def digitCount (n : Nat) : Nat :=
  (toString n).length

/-- The place of the leading digit of the value. -/
def Interval.leading (i : Interval) : Int :=
  (digitCount (i.value * 10 ^ 400 / i.denominator) : Int) - 401

/-- The shortest decimal that reads back as a magnitude other than zero. Seventeen digits always
suffice. -/
def shortest (bits : Nat) : Decimal :=
  let i := interval bits
  ((List.range 17).findSome? fun (extra : Nat) => i.onGrid? (i.leading - extra)).getD ⟨0, 0⟩

end Sandboxes.Double
