import Sandboxes.Number.Power

/-!
# Digits

Reading and writing whole numbers: unsigned decimals with an optional plus sign and an upper bound,
and numerals in base sixteen.
-/

namespace Sandboxes.Text

/-- Why a text is no number of the wanted range. -/
inductive NumeralFault
  | empty
  | invalidDigit
  | tooLarge
  deriving DecidableEq, Repr

/-- Words for the fault. -/
def NumeralFault.message : NumeralFault → String
  | .empty => "cannot parse integer from empty string"
  | .invalidDigit => "invalid digit found in string"
  | .tooLarge => "number too large to fit in target type"

/-- Whether the character is one of the ten ASCII digits. -/
def isDigit (c : Char) : Bool :=
  '0' ≤ c && c ≤ '9'

/-- The value of an ASCII digit. -/
def digitValue (c : Char) : Nat :=
  c.toNat - '0'.toNat

/-- Reads digits onto the value so far. A character that is no digit is found before a digit that
carries the value to `bound` or beyond. -/
def readDigits (bound : Nat) : List Char → Nat → Except NumeralFault Nat
  | [], value => .ok value
  | c :: cs, value =>
    if !isDigit c then .error .invalidDigit
    else
      let value := value * 10 + digitValue c
      if bound ≤ value then .error .tooLarge else readDigits bound cs value

/-- Reads an unsigned decimal below `bound`, with an optional plus sign in front. -/
def readNat (bound : Nat) (s : String) : Except NumeralFault Nat :=
  match s.toList with
  | [] => .error .empty
  | ['+'] => .error .invalidDigit
  | '+' :: cs => readDigits bound cs 0
  | cs => readDigits bound cs 0

/-- The digit of a value below sixteen, in lower case. -/
def hexDigit (n : Nat) : Char :=
  if n < 10 then Char.ofNat ('0'.toNat + n) else Char.ofNat ('a'.toNat + (n - 10))

/-- The value of a hexadecimal digit of either case. -/
def hexValue? (c : Char) : Option Nat :=
  if isDigit c then some (digitValue c)
  else if 'a' ≤ c && c ≤ 'f' then some (c.toNat - 'a'.toNat + 10)
  else if 'A' ≤ c && c ≤ 'F' then some (c.toNat - 'A'.toNat + 10)
  else none

/-- The last `width` hexadecimal digits of a number, in lower case. -/
def hexPadded : Nat → Nat → List Char
  | 0, _ => []
  | width + 1, n => hexPadded width (n / 16) ++ [hexDigit (n % 16)]

/-- The decimal digits of a number with at least `width` of them. -/
def decimalPadded (width n : Nat) : String :=
  let digits := toString n
  String.ofList (List.replicate (width - digits.length) '0') ++ digits

end Sandboxes.Text
