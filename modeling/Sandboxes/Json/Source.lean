import Sandboxes.Json.Basic
import Sandboxes.Json.Token

/-!
# JSON source trees

The tree of a JSON text before its strings and numbers are given values. A part of it that nobody
reads may hold strings that are no text, numbers beyond the range and any nesting; a part that is
read may not.
-/

namespace Sandboxes.Json

/-- The tree of a JSON text, with strings and numbers as written. -/
inductive Source
  | null
  | bool (b : Bool)
  | number (n : Numeral)
  | string (raw : Bytes)
  | array (items : List Source)
  | object (members : List (Bytes × Source))
  deriving Repr, Inhabited

namespace Source

/-! ### From tokens to trees -/

/-- A container that is still open, with what it holds so far in reverse. -/
inductive Frame
  | array (done : List Source)
  | object (done : List (Bytes × Source))
  | member (done : List (Bytes × Source)) (name : Bytes)
  deriving Repr

/-- What has to come next. -/
inductive Awaiting
  | value
  | valueOrEnd
  | name
  | nameOrEnd
  | colon
  | commaOrEnd
  /-- Nothing: the text is complete. -/
  | nothing (tree : Source)
  deriving Repr

/-- Puts a complete value where it belongs. -/
def deliver (v : Source) : List Frame → Option (List Frame × Awaiting)
  | [] => some ([], .nothing v)
  | .array done :: fs => some (.array (v :: done) :: fs, .commaOrEnd)
  | .member done name :: fs => some (.object ((name, v) :: done) :: fs, .commaOrEnd)
  | .object _ :: _ => none

/-- Takes a token where a value may come. -/
def beginValue (fs : List Frame) : Token → Option (List Frame × Awaiting)
  | .null => deliver .null fs
  | .bool b => deliver (.bool b) fs
  | .number n => deliver (.number n) fs
  | .string raw => deliver (.string raw) fs
  | .openArray => some (.array [] :: fs, .valueOrEnd)
  | .openObject => some (.object [] :: fs, .nameOrEnd)
  | _ => none

/-- Takes a token where the name of a member may come. -/
def beginMember : List Frame → Token → Option (List Frame × Awaiting)
  | .object done :: fs, .string raw => some (.member done raw :: fs, .colon)
  | _, _ => none

/-- Takes a token that ends the innermost container. -/
def finish : List Frame → Token → Option (List Frame × Awaiting)
  | .array done :: fs, .closeArray => deliver (.array done.reverse) fs
  | .object done :: fs, .closeObject => deliver (.object done.reverse) fs
  | _, _ => none

/-- Takes one token. -/
def take (t : Token) : List Frame × Awaiting → Option (List Frame × Awaiting)
  | (fs, .value) => beginValue fs t
  | (fs, .valueOrEnd) => if t = .closeArray then finish fs t else beginValue fs t
  | (fs, .name) => beginMember fs t
  | (fs, .nameOrEnd) => if t = .closeObject then finish fs t else beginMember fs t
  | (fs, .colon) => if t = .colon then some (fs, .value) else none
  | (.array done :: fs, .commaOrEnd) =>
    if t = .comma then some (.array done :: fs, .value) else finish (.array done :: fs) t
  | (fs, .commaOrEnd) => if t = .comma then some (fs, .name) else finish fs t
  | (_, .nothing _) => none

/-- The tree that a whole list of tokens spells. -/
def ofTokens? (ts : List Token) : Option Source :=
  match ts.foldlM (fun state t => take t state) ([], .value) with
  | some (_, .nothing tree) => some tree
  | _ => none

/-- The tree of a JSON text. -/
def ofBytes? (text : Bytes) : Option Source :=
  (tokens? text).bind ofTokens?

/-! ### Values of strings -/

/-- The value of four hexadecimal digits. -/
def unit? (a b c d : UInt8) : Option Nat := do
  let digit (b : UInt8) := Text.hexValue? (Char.ofNat b.toNat)
  return (((← digit a) * 16 + (← digit b)) * 16 + (← digit c)) * 16 + (← digit d)

/-- The bytes of the character with that number. -/
def charBytes (n : Nat) : Bytes :=
  Text.encode (String.singleton (Char.ofNat n))

/-- What an escape of one letter stands for. -/
def shortEscape (b : UInt8) : UInt8 :=
  match Char.ofNat b.toNat with
  | 'b' => 0x08
  | 'f' => 0x0C
  | 'n' => 0x0A
  | 'r' => 0x0D
  | 't' => 0x09
  | _ => b

/-- Resolves the escapes of a string. A code unit of a surrogate pair must not stand alone. -/
def unescape? : Bytes → Option Bytes
  | [] => some []
  | 0x5C :: 0x75 :: a :: b :: c :: d :: 0x5C :: 0x75 :: e :: f :: g :: h :: rest => do
    let first ← unit? a b c d
    if first < 0xD800 ∨ 0xE000 ≤ first then
      let tail ← unescape? (0x5C :: 0x75 :: e :: f :: g :: h :: rest)
      return charBytes first ++ tail
    else
      let second ← unit? e f g h
      if first < 0xDC00 ∧ 0xDC00 ≤ second ∧ second < 0xE000 then
        let tail ← unescape? rest
        return charBytes (0x10000 + (first - 0xD800) * 0x400 + (second - 0xDC00)) ++ tail
      else none
  | 0x5C :: 0x75 :: a :: b :: c :: d :: rest => do
    let unit ← unit? a b c d
    if unit < 0xD800 ∨ 0xE000 ≤ unit then return charBytes unit ++ (← unescape? rest) else none
  | 0x5C :: b :: rest => (unescape? rest).map (shortEscape b :: ·)
  | b :: rest => (unescape? rest).map (b :: ·)

/-- The text that a string stands for. -/
def text? (raw : Bytes) : Option String :=
  (unescape? raw).bind Text.decode?

/-! ### Values of numbers -/

/-- Takes the digits into a number below `2 ^ 64` until one does not fit: the number, how many were
taken, and how many were not. -/
def absorb : Nat → List Nat → Nat × Nat × Nat
  | value, [] => (value, 0, 0)
  | value, d :: ds =>
    if value * 10 + d < 2 ^ 64 then
      let (value, taken, left) := absorb (value * 10 + d) ds
      (value, taken + 1, left)
    else (value, 0, ds.length + 1)

/-- A number that is not whole, or too large to be kept as a whole number: its leading digits
rounded to a double, then scaled by a power of ten. -/
def float? (n : Numeral) : Option Number := do
  let (value, _, wholeLeft) := absorb 0 n.whole
  let (value, fractionTaken, _) := absorb value n.fraction
  let written : Int := match n.exponent with
    | none => 0
    | some (negative, ds) =>
      let e : Nat := ds.foldl (fun e d => e * 10 + d) 0
      if negative then -(e : Int) else e
  let significand ← Double.ofInt? value
  let bits ← Double.scale? significand.bits ((wholeLeft : Int) - fractionTaken + written) 4
  return .float ⟨n.negative, bits⟩

/-- The value of a number, if it is in range. -/
def number? (n : Numeral) : Option Number :=
  if n.fraction = [] ∧ n.exponent = none then
    match absorb 0 n.whole with
    | (value, _, 0) =>
      if !n.negative then some (.int value)
      else if 0 < value ∧ value ≤ 2 ^ 63 then some (.int (-value))
      else float? n
    | _ => float? n
  else float? n

/-! ### Values of trees -/

mutual

/-- The value of a tree in which containers are nested at most `depth` deep. -/
def value? (depth : Nat) : Source → Option Json
  | .null => some .null
  | .bool b => some (.bool b)
  | .number n => (number? n).map .num
  | .string raw => (text? raw).map .str
  | .array items =>
    match depth with
    | 0 => none
    | depth + 1 => (items? depth items).map .arr
  | .object members =>
    match depth with
    | 0 => none
    | depth + 1 => (members? depth members).map .obj
termination_by structural s => s

/-- The values of items. -/
def items? (depth : Nat) : List Source → Option (List Json)
  | [] => some []
  | s :: ss => do return (← value? depth s) :: (← items? depth ss)
termination_by structural ss => ss

/-- The names and values of members. -/
def members? (depth : Nat) : List (Bytes × Source) → Option Members
  | [] => some []
  | m :: ms => do return (← member? depth m) :: (← members? depth ms)
termination_by structural ms => ms

/-- The name and value of a member. -/
def member? (depth : Nat) : Bytes × Source → Option (String × Json)
  | (raw, s) => do return (← text? raw, ← value? depth s)
termination_by structural m => m

end

/-- How deep the containers of a text that is read may be nested. -/
def maxDepth : Nat := 127

/-- The members whose names are among `names`. The others need a name that is text, and no value. -/
def keep? (names : List String) (depth : Nat) :
    List (Bytes × Source) → Option Members
  | [] => some []
  | (raw, s) :: ms => do
    let name ← text? raw
    if names.contains name then
      let value ← value? depth s
      return (name, value) :: (← keep? names depth ms)
    else keep? names depth ms

/-- The value of a tree that is to be read as a record with fields of those names. Members of other
names are left out. -/
def record? (names : List String) : Source → Option Json
  | .object members => (keep? names (maxDepth - 1) members).map .obj
  | s => value? maxDepth s

end Source

/-! ### Reading a text -/

/-- The value of a JSON text. -/
def read? (text : Bytes) : Option Json :=
  (Source.ofBytes? text).bind (Source.value? Source.maxDepth)

/-- The value of a JSON text that is to be read as a record with fields of those names. -/
def readRecord? (names : List String) (text : Bytes) : Option Json :=
  (Source.ofBytes? text).bind (Source.record? names)

end Sandboxes.Json
