import Sandboxes.Text.Digits
import Sandboxes.Text.Utf8

/-!
# Tokens of a JSON text

Splitting the bytes of a JSON text into tokens. The bytes of strings and numbers are kept as they
stand: whether a string is well-formed text and a number is in range only matters where its value
is used.
-/

namespace Sandboxes.Json

/-- A number as written. -/
structure Numeral where
  negative : Bool
  whole : List Nat
  fraction : List Nat
  exponent : Option (Bool × List Nat)
  deriving DecidableEq, Repr

/-- A token of a JSON text. Strings are kept as the bytes between the quotes. -/
inductive Token
  | openObject
  | closeObject
  | openArray
  | closeArray
  | comma
  | colon
  | null
  | bool (b : Bool)
  | number (n : Numeral)
  | string (raw : Bytes)
  deriving DecidableEq, Repr

/-! ### Words -/

/-- The longest run of digits in front, as their values, and the rest. -/
def digitsOf : List Char → List Nat × List Char
  | [] => ([], [])
  | c :: cs =>
    if Text.isDigit c then
      let (ds, rest) := digitsOf cs
      (Text.digitValue c :: ds, rest)
    else ([], c :: cs)

/-- Reads the exponent of a number, if one comes, up to the end of the word. -/
def exponentOf? : List Char → Option (Option (Bool × List Nat))
  | [] => some none
  | c :: cs =>
    if c = 'e' ∨ c = 'E' then
      let (negative, cs) := match cs with
        | '+' :: cs => (false, cs)
        | '-' :: cs => (true, cs)
        | cs => (false, cs)
      match digitsOf cs with
      | ([], _) => none
      | (ds, []) => some (some (negative, ds))
      | _ => none
    else none

/-- Reads a number that takes up the whole word. -/
def numeral? (cs : List Char) : Option Numeral := do
  let (negative, cs) := match cs with
    | '-' :: cs => (true, cs)
    | cs => (false, cs)
  let (whole, cs) := digitsOf cs
  match whole with
  | [] => none
  | 0 :: _ :: _ => none
  | _ =>
    match cs with
    | '.' :: cs =>
      let (fraction, cs) := digitsOf cs
      if fraction = [] then none
      else
        let exponent ← exponentOf? cs
        some ⟨negative, whole, fraction, exponent⟩
    | cs =>
      let exponent ← exponentOf? cs
      some ⟨negative, whole, [], exponent⟩

/-- The token that a word is: a name or a number. -/
def word? (raw : Bytes) : Option Token :=
  let cs := raw.map fun b => Char.ofNat b.toNat
  if cs = "null".toList then some .null
  else if cs = "true".toList then some (.bool true)
  else if cs = "false".toList then some (.bool false)
  else (numeral? cs).map .number

/-! ### The reading machine -/

/-- Where the machine stands. The bytes read so far of a token are kept in reverse. -/
inductive Lexing
  | between
  | inWord (raw : Bytes)
  | inString (raw : Bytes)
  | afterBackslash (raw : Bytes)
  /-- Inside an escaped code unit, with that many digits to come. -/
  | inUnit (owed : Nat) (raw : Bytes)
  deriving DecidableEq, Repr

/-- Blanks between tokens. -/
def isGap (b : UInt8) : Bool :=
  b == 0x20 || b == 0x09 || b == 0x0A || b == 0x0D

/-- The tokens of one byte. -/
def punctuation? (b : UInt8) : Option Token :=
  match Char.ofNat b.toNat with
  | '{' => some .openObject
  | '}' => some .closeObject
  | '[' => some .openArray
  | ']' => some .closeArray
  | ',' => some .comma
  | ':' => some .colon
  | _ => none

/-- Takes a byte between tokens. -/
def Lexing.opening (b : UInt8) : List Token × Lexing :=
  if isGap b then ([], .between)
  else if b == 0x22 then ([], .inString [])
  else match punctuation? b with
    | some t => ([t], .between)
    | none => ([], .inWord [b])

/-- Takes one byte; fails where no token can go on. -/
def Lexing.step : Lexing → UInt8 → Option (List Token × Lexing)
  | .between, b => some (Lexing.opening b)
  | .inWord raw, b =>
    if isGap b || b == 0x22 || (punctuation? b).isSome then do
      let t ← word? raw.reverse
      let (ts, next) := Lexing.opening b
      return (t :: ts, next)
    else some ([], .inWord (b :: raw))
  | .inString raw, b =>
    if b == 0x22 then some ([.string raw.reverse], .between)
    else if b == 0x5C then some ([], .afterBackslash (b :: raw))
    else if b < 0x20 then none
    else some ([], .inString (b :: raw))
  | .afterBackslash raw, b =>
    if "\"\\/bfnrt".toList.contains (Char.ofNat b.toNat) then some ([], .inString (b :: raw))
    else if b == 0x75 then some ([], .inUnit 4 (b :: raw))
    else none
  | .inUnit owed raw, b =>
    if (Text.hexValue? (Char.ofNat b.toNat)).isSome then
      some ([], if owed ≤ 1 then .inString (b :: raw) else .inUnit (owed - 1) (b :: raw))
    else none

/-- Reads the remaining bytes; `done` holds the tokens so far in reverse. -/
def Lexing.run : Lexing → (done : List Token) → Bytes → Option (List Token)
  | .between, done, [] => some done.reverse
  | .inWord raw, done, [] => (word? raw.reverse).map fun t => (t :: done).reverse
  | _, _, [] => none
  | l, done, b :: bs => do
    let (ts, next) ← l.step b
    next.run (ts.reverse ++ done) bs

/-- The tokens of a JSON text. -/
def tokens? (text : Bytes) : Option (List Token) :=
  Lexing.run .between [] text

end Sandboxes.Json
