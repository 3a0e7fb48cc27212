import Sandboxes.Net.Ipv4
import Sandboxes.Net.Percent
import Sandboxes.Net.Punycode
import Sandboxes.Text.Case

/-!
# Hosts

The host of a URL in its normal form. A host in brackets is an IPv6 address; a host whose last label
is a number is an IPv4 address, in any of its spellings; any other host is a name in lower case,
labels beyond ASCII in their ASCII form.
-/

namespace Sandboxes.Net

/-! ### Names that are IPv4 addresses -/

/-- Reads digits in some base. -/
def numberIn (base : Nat) : List Char → Nat → Option Nat
  | [], n => some n
  | c :: cs, n =>
    match Text.hexValue? c with
    | some v => if v < base then numberIn base cs (n * base + v) else none
    | none => none

/-- Reads a part of an address: hexadecimal after `0x`, octal after `0`, else decimal. -/
def partNumber? : List Char → Option Nat
  | [] => none
  | '0' :: 'x' :: cs | '0' :: 'X' :: cs => numberIn 16 cs 0
  | '0' :: c :: cs => numberIn 8 (c :: cs) 0
  | cs => numberIn 10 cs 0

/-- The labels of a name, without an empty one at the end. -/
def labels (cs : List Char) : List (List Char) :=
  let parts := Text.fields '.' cs
  match parts.reverse with
  | [] :: rest@(_ :: _) => rest.reverse
  | _ => parts

/-- Whether the last label makes the name an address. -/
def endsInNumber (cs : List Char) : Bool :=
  match (labels cs).getLast? with
  | none => false
  | some last => (last ≠ [] && last.all Text.isDigit) || (last ≠ [] && (partNumber? last).isSome)

/-- The address made of parts, of which the last one fills the remaining bytes. -/
def assemble? : List Nat → Option Nat
  | [] => none
  | parts@(_ :: _) =>
    let last := parts.getLastD 0
    let front := parts.dropLast
    if 4 < parts.length ∨ front.any (255 < ·) ∨ 256 ^ (4 - front.length) ≤ last then none
    else
      let high := front.foldl (fun n p => n * 256 + p) 0
      some (high * 256 ^ (4 - front.length) + last)

/-- The dotted form of an address in any spelling. -/
def addressName? (cs : List Char) : Option (List Char) := do
  let parts ← (labels cs).mapM partNumber?
  let n ← assemble? parts
  let byte (i : Nat) := UInt8.ofNat (n / 256 ^ i)
  return (Ipv4.text ⟨byte 3, byte 2, byte 1, byte 0⟩).toList

/-! ### IPv6 addresses -/

/-- Reads groups of hexadecimal digits, the last two possibly as a dotted address. -/
def groups? (cs : List Char) : Option (List Nat) :=
  if cs = [] then some []
  else
    let parts := Text.fields ':' cs
    let group (p : List Char) : Option Nat :=
      if p = [] ∨ 4 < p.length then none else numberIn 16 p 0
    match parts.reverse with
    | last :: front =>
      if last.contains '.' then do
        let ip ← Ipv4.ofText? (String.ofList last)
        let high ← front.reverse.mapM group
        return high ++ [ip.a.toNat * 256 + ip.b.toNat, ip.c.toNat * 256 + ip.d.toNat]
      else parts.mapM group
    | [] => none

/-- What stands before and after the first pair of colons. -/
def splitDouble? : List Char → Option (List Char × List Char)
  | ':' :: ':' :: rest => some ([], rest)
  | c :: rest => (splitDouble? rest).map fun (before, after) => (c :: before, after)
  | [] => none

/-- The eight groups of an IPv6 address. -/
def ipv6? (cs : List Char) : Option (List Nat) :=
  match splitDouble? cs with
  | some (before, after) => do
    let high ← groups? before
    let low ← groups? after
    if high.length + low.length < 8 then
      return high ++ List.replicate (8 - high.length - low.length) 0 ++ low
    else none
  | none => do
    let all ← groups? cs
    if all.length = 8 then return all else none

/-- The lengths of the runs of zeros that begin at each group. -/
def zeroRuns : List Nat → List Nat
  | [] => []
  | g :: gs =>
    let rest := zeroRuns gs
    (if g = 0 then rest.headD 0 + 1 else 0) :: rest

/-- The hexadecimal form of a group without leading zeros. -/
def groupText (g : Nat) : String :=
  let digits := (Text.hexPadded 4 g).dropWhile (· = '0')
  if digits = [] then "0" else String.ofList digits

/-- The normal form of an IPv6 address: the first longest run of two zeros or more is left out. -/
def ipv6Text (groups : List Nat) : String :=
  let runs := zeroRuns groups
  let longest := runs.foldl max 0
  if longest < 2 then Text.joined ":" (groups.map groupText)
  else
    let start := runs.findIdx (· = longest)
    Text.joined ":" ((groups.take start).map groupText) ++ "::" ++
      Text.joined ":" ((groups.drop (start + longest)).map groupText)

/-! ### Hosts -/

/-- Characters that no name may hold. -/
def isForbidden (c : Char) : Bool :=
  c.toNat ≤ 0x20 || c.toNat = 0x7F || "#/:<>?@[\\]^|%".toList.contains c

/-- The ASCII form of a label in lower case. -/
def asciiLabel (cs : List Char) : List Char :=
  if cs.all (·.toNat < 0x80) then cs else "xn--".toList ++ Punycode.encode cs

/-- The normal form of a host. -/
def host? (cs : List Char) : Option String :=
  match cs with
  | [] => none
  | '[' :: rest =>
    match rest.reverse with
    | ']' :: inner => (ipv6? inner.reverse).map fun groups => "[" ++ ipv6Text groups ++ "]"
    | _ => none
  | cs =>
    let decoded := Text.decodeLenient (percentDecode (Text.encode (String.ofList cs)))
    let name := (Text.lower decoded).toList
    let ascii := (Text.joined "." ((Text.fields '.' name).map
      fun label => String.ofList (asciiLabel label))).toList
    if ascii = [] ∨ ascii.any isForbidden then none
    else if endsInNumber ascii then (addressName? ascii).map String.ofList
    else some (String.ofList ascii)

end Sandboxes.Net
