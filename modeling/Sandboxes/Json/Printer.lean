import Sandboxes.Json.Basic
import Sandboxes.Number.Shortest
import Sandboxes.Text.Digits

/-!
# Writing JSON

The compact form without blanks, and the pretty form with an indentation of two blanks. Characters
below the blank, quotes and backslashes are escaped and nothing else. A number that is not whole is
written with its shortest digits.
-/

namespace Sandboxes

/-! ### Numbers -/

/-- The decimal digits of a number without trailing zeros, and how many of those there were. `fuel`
bounds the zeros that are dropped. -/
def Double.stripZeros : (fuel digits : Nat) → Nat × Nat
  | 0, digits => (digits, 0)
  | fuel + 1, digits =>
    if digits % 10 = 0 ∧ digits ≠ 0 then
      let (digits, zeros) := stripZeros fuel (digits / 10)
      (digits, zeros + 1)
    else (digits, 0)

/-- The text of a magnitude: positional with a fraction from `10 ^ (-5)` up to `10 ^ 16`, with an
exponent otherwise. -/
def Double.magnitudeText (bits : Nat) : String :=
  if bits = 0 then "0.0"
  else
    let decimal := shortest bits
    let (digits, zeros) := stripZeros 20 decimal.digits
    let text := toString digits
    let place := decimal.place + zeros
    let point := place + text.length
    if -5 < point ∧ point ≤ 16 then
      if 0 ≤ place then text ++ String.ofList (List.replicate place.toNat '0') ++ ".0"
      else if 0 < point then
        String.ofList (text.toList.take point.toNat) ++ "." ++
          String.ofList (text.toList.drop point.toNat)
      else "0." ++ String.ofList (List.replicate (-point).toNat '0') ++ text
    else
      let mantissa := match text.toList with
        | [] | [_] => text
        | d :: ds => String.ofList (d :: '.' :: ds)
      let exponent := point - 1
      mantissa ++ "e" ++ (if 0 ≤ exponent then "+" else "-") ++ toString exponent.natAbs

/-- The text of a double precision number. -/
def Double.text (x : Double) : String :=
  (if x.negative then "-" else "") ++ magnitudeText x.bits

/-- The text of a number. -/
def Number.text : Number → String
  | .int i => toString i
  | .float x => x.text

namespace Json

/-! ### Strings -/

/-- What a character is written as inside quotes. -/
def escape (c : Char) : List Char :=
  if c = '"' then ['\\', '"']
  else if c = '\\' then ['\\', '\\']
  else if c = '\n' then ['\\', 'n']
  else if c = '\r' then ['\\', 'r']
  else if c = '\t' then ['\\', 't']
  else if c.toNat = 0x08 then ['\\', 'b']
  else if c.toNat = 0x0C then ['\\', 'f']
  else if c.toNat < 0x20 then '\\' :: 'u' :: Text.hexPadded 4 c.toNat
  else [c]

/-- A text in quotes. -/
def quote (s : String) : String :=
  "\"" ++ String.ofList (s.toList.flatMap escape) ++ "\""

/-! ### The compact form -/

mutual

/-- The compact form of a value. -/
def compact : Json → String
  | .null => "null"
  | .bool true => "true"
  | .bool false => "false"
  | .num n => n.text
  | .str s => quote s
  | .arr items => "[" ++ compactItems items ++ "]"
  | .obj members => "\x7b" ++ compactMembers members ++ "\x7d"
termination_by structural j => j

/-- The compact forms of the items, with commas. -/
def compactItems : List Json → String
  | [] => ""
  | [j] => compact j
  | j :: js => compact j ++ "," ++ compactItems js
termination_by structural js => js

/-- The compact forms of the members, with commas. -/
def compactMembers : Members → String
  | [] => ""
  | [m] => compactMember m
  | m :: ms => compactMember m ++ "," ++ compactMembers ms
termination_by structural ms => ms

/-- The compact form of a member. -/
def compactMember : String × Json → String
  | (name, value) => quote name ++ ":" ++ compact value
termination_by structural m => m

end

/-! ### The pretty form -/

/-- A new line indented by `depth` steps. -/
def newline (depth : Nat) : String :=
  "\n" ++ String.ofList (List.replicate (2 * depth) ' ')

mutual

/-- The pretty form of a value that stands `depth` containers deep. -/
def prettyAt (depth : Nat) : Json → String
  | .null => "null"
  | .bool true => "true"
  | .bool false => "false"
  | .num n => n.text
  | .str s => quote s
  | .arr [] => "[]"
  | .arr items => "[" ++ prettyItems (depth + 1) items ++ newline depth ++ "]"
  | .obj [] => "\x7b\x7d"
  | .obj members => "\x7b" ++ prettyMembers (depth + 1) members ++ newline depth ++ "\x7d"
termination_by structural j => j

/-- The pretty forms of the items, each on a line of its own. -/
def prettyItems (depth : Nat) : List Json → String
  | [] => ""
  | [j] => newline depth ++ prettyAt depth j
  | j :: js => newline depth ++ prettyAt depth j ++ "," ++ prettyItems depth js
termination_by structural js => js

/-- The pretty forms of the members, each on a line of its own. -/
def prettyMembers (depth : Nat) : Members → String
  | [] => ""
  | [m] => newline depth ++ prettyMember depth m
  | m :: ms => newline depth ++ prettyMember depth m ++ "," ++ prettyMembers depth ms
termination_by structural ms => ms

/-- The pretty form of a member. -/
def prettyMember (depth : Nat) : String × Json → String
  | (name, value) => quote name ++ ": " ++ prettyAt depth value
termination_by structural m => m

end

/-- The pretty form of a value. -/
def pretty (j : Json) : String :=
  prettyAt 0 j

end Json

end Sandboxes
