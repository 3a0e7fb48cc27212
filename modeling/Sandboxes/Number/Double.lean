import Sandboxes.Number.Power

/-!
# Double precision

Finite binary64 numbers as their bits. A number is a sign and a magnitude `mantissa · 2 ^ exponent`;
every operation rounds an exact ratio of natural numbers to the nearest number, a tie to the even
mantissa. Exponents are kept with a bias of 1074, so that they are natural numbers.
-/

namespace Sandboxes

/-- A finite double precision number: a sign, and the bits of the magnitude. -/
structure Double where
  negative : Bool
  bits : Nat
  deriving DecidableEq, Repr, Inhabited

namespace Double

/-- The bits of positive infinity, above those of every finite magnitude. -/
def infinity : Nat := 2047 * 2 ^ 52

/-- The mantissa and the biased exponent of a magnitude: it is `mantissa · 2 ^ (exponent - 1074)`. -/
def unpack (bits : Nat) : Nat × Nat :=
  let exponent := bits / 2 ^ 52
  let fraction := bits % 2 ^ 52
  if exponent = 0 then (fraction, 0) else (fraction + 2 ^ 52, exponent - 1)

/-- The quotient of two numbers rounded to the nearest whole number, a tie to the even one. -/
def roundDiv (n d : Nat) : Nat :=
  let quotient := n / d
  let twice := 2 * (n % d)
  if twice < d then quotient
  else if d < twice then quotient + 1
  else if quotient % 2 = 0 then quotient else quotient + 1

/-- The biased exponent at which `n / d` has a mantissa of 53 bits, or the least one. -/
def exponentOf (n d : Nat) : Nat :=
  let n := n * 2 ^ 1074
  let guess := n.log2 - d.log2 - 52
  if n / (d * 2 ^ guess) < 2 ^ 52 then guess - 1 else guess

/-- The bits of the magnitude nearest to `n / d`; none if that is infinity. -/
def nearest? (n d : Nat) : Option Nat :=
  if n = 0 then some 0
  else
    let exponent := exponentOf n d
    let mantissa := roundDiv (n * 2 ^ 1074) (d * 2 ^ exponent)
    let bits := if mantissa < 2 ^ 52 then mantissa else (exponent + 1) * 2 ^ 52 + (mantissa - 2 ^ 52)
    if bits < infinity then some bits else none

/-- The magnitude as an exact ratio. -/
def ratio (bits : Nat) : Nat × Nat :=
  let (mantissa, exponent) := unpack bits
  if exponent < 1074 then (mantissa, 2 ^ (1074 - exponent))
  else (mantissa * 2 ^ (exponent - 1074), 1)

/-- The magnitude of a power of ten. -/
def powerOfTen (n : Nat) : Nat :=
  (nearest? (10 ^ n) 1).getD infinity

/-- The product of two magnitudes. -/
def mul? (a b : Nat) : Option Nat :=
  let (n, d) := ratio a
  let (n', d') := ratio b
  nearest? (n * n') (d * d')

/-- The quotient of two magnitudes, the second of them not zero. -/
def div? (a b : Nat) : Option Nat :=
  let (n, d) := ratio a
  let (n', d') := ratio b
  nearest? (n * d') (d * n')

/-- A magnitude times a power of ten, in steps of at most `10 ^ 308`. At most two steps lead out of
the range of exponents, which is what `steps` counts. -/
def scale? (bits : Nat) (exponent : Int) : (steps : Nat) → Option Nat
  | 0 => some bits
  | steps + 1 =>
    if exponent.natAbs ≤ 308 then
      if 0 ≤ exponent then mul? bits (powerOfTen exponent.natAbs)
      else div? bits (powerOfTen exponent.natAbs)
    else if bits = 0 then some 0
    else if 0 ≤ exponent then none
    else (div? bits (powerOfTen 308)).bind (scale? · (exponent + 308) steps)

/-- The number nearest to a whole number. -/
def ofInt? (i : Int) : Option Double :=
  (nearest? i.natAbs 1).map fun bits => ⟨decide (i < 0), bits⟩

/-- The number nearest to a ratio, up to the sign. -/
def ofRatio? (negative : Bool) (n d : Nat) : Option Double :=
  (nearest? n d).map fun bits => ⟨negative, bits⟩

/-- The magnitude rounded to a whole number, a tie to the even one. -/
def rounded (x : Double) : Nat :=
  let (n, d) := ratio x.bits
  roundDiv n d

end Double

end Sandboxes
