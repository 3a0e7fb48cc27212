import Sandboxes.Json.Basic
import Sandboxes.Text.Digits
import Sandboxes.Text.Pieces

/-!
# Plain scalars of TOML

The values that a TOML text writes without quotes or brackets: booleans, whole numbers, floating
point numbers, dates and times. Each is recognised in a word, the longest run of characters up to a
delimiter.
-/

namespace Sandboxes.Toml

/-! ### Numbers -/

/-- The digits of a numeral in some base: at least one, and single underscores between digits. -/
def digitsIn (base : Nat) : List Char → Option (List Nat)
  | [] => none
  | [c] => (digit? c).map ([·])
  | c :: '_' :: rest => do return (← digit? c) :: (← digitsIn base rest)
  | c :: rest => do return (← digit? c) :: (← digitsIn base rest)
where
  /-- The value of a digit of the base. -/
  digit? (c : Char) : Option Nat :=
    (Text.hexValue? c).filter (· < base)

/-- The number that digits in some base spell. -/
def valueIn (base : Nat) (ds : List Nat) : Nat :=
  ds.foldl (fun n d => n * base + d) 0

/-- Splits off a sign. -/
def sign : List Char → Bool × List Char
  | '-' :: cs => (true, cs)
  | '+' :: cs => (false, cs)
  | cs => (false, cs)

/-- The digits of a decimal numeral, which has no leading zero. -/
def decimalDigits (cs : List Char) : Option (List Nat) := do
  match ← digitsIn 10 cs with
  | 0 :: _ :: _ => none
  | ds => some ds

/-- Reads a whole number of 64 bits. -/
def integer? (cs : List Char) : Option Int :=
  match cs with
  | '0' :: 'x' :: cs => positive 16 cs
  | '0' :: 'o' :: cs => positive 8 cs
  | '0' :: 'b' :: cs => positive 2 cs
  | cs => do
    let (negative, cs) := sign cs
    let n := valueIn 10 (← decimalDigits cs)
    if negative then (if n ≤ 2 ^ 63 then some (-n) else none)
    else (if n < 2 ^ 63 then some n else none)
where
  /-- Reads a number without a sign in another base. -/
  positive (base : Nat) (cs : List Char) : Option Int := do
    let n := valueIn base (← digitsIn base cs)
    if n < 2 ^ 63 then some n else none

/-- The double nearest to `n · 10 ^ place`, up to the sign; infinity if it is too large. -/
def magnitude (n : Nat) (place : Int) : Nat :=
  let point := place + (toString n).length
  if n = 0 ∨ point < -400 then 0
  else if 400 < point then Double.infinity
  else
    let bits := if 0 ≤ place then Double.nearest? (n * 10 ^ place.toNat) 1
      else Double.nearest? n (10 ^ (-place).toNat)
    bits.getD Double.infinity

/-- Reads a floating point number; a positive one must not be too large. -/
def float? (cs : List Char) : Option Double := do
  let (negative, cs) := sign cs
  if cs = "inf".toList then return ⟨negative, Double.infinity⟩
  if cs = "nan".toList then return ⟨negative, Double.infinity + 1⟩
  let isExponent (c : Char) := c = 'e' || c = 'E'
  let mantissa := cs.takeWhile (!isExponent ·)
  let exponent ← match cs.dropWhile (!isExponent ·) with
    | [] => some none
    | _ :: cs => do
      let (below, cs) := sign cs
      let e : Int := valueIn 10 (← digitsIn 10 cs)
      some (some (if below then -e else e))
  let (whole, fraction) ← match Text.splitFirst? '.' mantissa with
    | some (whole, fraction) => do some (← decimalDigits whole, ← digitsIn 10 fraction)
    | none => do
      let whole ← decimalDigits mantissa
      if exponent.isSome then some (whole, []) else none
  let bits := magnitude (valueIn 10 (whole ++ fraction)) (exponent.getD 0 - fraction.length)
  if bits = Double.infinity ∧ !negative then none else return ⟨negative, bits⟩

/-! ### Dates and times -/

/-- Reads exactly `n` digits. -/
def exactly (n : Nat) (cs : List Char) : Option (Nat × List Char) :=
  let ds := cs.take n
  if ds.length = n ∧ ds.all Text.isDigit then
    some (valueIn 10 (ds.map Text.digitValue), cs.drop n)
  else none

/-- The number of days of a month. -/
def daysIn (year month : Nat) : Nat :=
  let leap := year % 4 = 0 ∧ (year % 100 ≠ 0 ∨ year % 400 = 0)
  if month = 2 then (if leap then 29 else 28)
  else if month = 4 ∨ month = 6 ∨ month = 9 ∨ month = 11 then 30
  else 31

/-- Reads a date and gives its normal form. -/
def date? (cs : List Char) : Option (String × List Char) := do
  let (year, cs) ← exactly 4 cs
  let cs ← Text.dropFront? ['-'] cs
  let (month, cs) ← exactly 2 cs
  let cs ← Text.dropFront? ['-'] cs
  let (day, cs) ← exactly 2 cs
  if 1 ≤ month ∧ month ≤ 12 ∧ 1 ≤ day ∧ day ≤ daysIn year month then
    let y := Text.decimalPadded 4 year
    let m := Text.decimalPadded 2 month
    let d := Text.decimalPadded 2 day
    return (s!"{y}-{m}-{d}", cs)
  else none

/-- Reads a fraction of a second and gives its normal form: nine digits at most, and no zeros at
the end. -/
def fraction? (cs : List Char) : Option (String × List Char) :=
  match cs with
  | '.' :: cs =>
    let ds := cs.takeWhile Text.isDigit
    let kept := ((ds.take 9).reverse.dropWhile (· = '0')).reverse
    if ds = [] then none
    else some (if kept = [] then "" else String.ofList ('.' :: kept), cs.dropWhile Text.isDigit)
  | cs => some ("", cs)

/-- Reads a time of day and gives its normal form. -/
def time? (cs : List Char) : Option (String × List Char) := do
  let (hour, cs) ← exactly 2 cs
  let cs ← Text.dropFront? [':'] cs
  let (minute, cs) ← exactly 2 cs
  let cs ← Text.dropFront? [':'] cs
  let (second, cs) ← exactly 2 cs
  let (fraction, cs) ← fraction? cs
  if hour ≤ 23 ∧ minute ≤ 59 ∧ second ≤ 60 then
    let h := Text.decimalPadded 2 hour
    let m := Text.decimalPadded 2 minute
    let s := Text.decimalPadded 2 second
    return (s!"{h}:{m}:{s}{fraction}", cs)
  else none

/-- Reads the offset from universal time that ends a word, if there is one. -/
def offset? : List Char → Option String
  | [] => some ""
  | ['Z'] | ['z'] => some "Z"
  | c :: cs => do
    let negative ← if c = '-' then some true else if c = '+' then some false else none
    let (hour, cs) ← exactly 2 cs
    let cs ← Text.dropFront? [':'] cs
    let (minute, cs) ← exactly 2 cs
    if cs = [] ∧ hour ≤ 23 ∧ minute ≤ 59 then
      let s := if negative ∧ 0 < hour + minute then "-" else "+"
      let h := Text.decimalPadded 2 hour
      let m := Text.decimalPadded 2 minute
      return s!"{s}{h}:{m}"
    else none

/-- Reads a date, a time or both, and gives the normal form. -/
def datetime? (cs : List Char) : Option String :=
  match date? cs with
  | some (date, []) => some date
  | some (date, c :: rest) =>
    if c = 'T' ∨ c = 't' then do
      let (time, rest) ← time? rest
      return date ++ "T" ++ time ++ (← offset? rest)
    else none
  | none => do
    let (time, rest) ← time? cs
    if rest = [] then some time else none

/-! ### Words -/

/-- How a date or time appears in a document: a table with one entry of this name. -/
def datetimeName : String := "$__toml_private_datetime"

/-- The value of a word. -/
def word? (cs : List Char) : Option Json :=
  if cs = "true".toList then some (.bool true)
  else if cs = "false".toList then some (.bool false)
  else match datetime? cs with
    | some text => some (.obj [(datetimeName, .str text)])
    | none => match integer? cs with
      | some i => some (.num (.int i))
      | none => (float? cs).map (.num ∘ .float)

end Sandboxes.Toml
