import Sandboxes.Text.Digits
import Sandboxes.Text.Pieces

/-!
# IPv4 addresses

Addresses of four bytes and their dotted form. A number of the dotted form has one to three digits
and no leading zero, so every address has one form only.
-/

namespace Sandboxes

/-- An address of four bytes. -/
structure Ipv4 where
  a : UInt8
  b : UInt8
  c : UInt8
  d : UInt8
  deriving DecidableEq, Repr

namespace Ipv4

/-- The dotted form. -/
def text (ip : Ipv4) : String :=
  Text.joined "." [toString ip.a, toString ip.b, toString ip.c, toString ip.d]

/-- Reads one number of the dotted form. -/
def byte? : List Char → Option UInt8
  | [] => none
  | ['0'] => some 0
  | '0' :: _ => none
  | cs =>
    if cs.length ≤ 3 && cs.all Text.isDigit then
      let n := cs.foldl (fun n c => n * 10 + Text.digitValue c) 0
      if n < 256 then some (UInt8.ofNat n) else none
    else none

/-- Reads the dotted form. -/
def ofText? (s : String) : Option Ipv4 :=
  match Text.fields '.' s.toList with
  | [a, b, c, d] => do return ⟨← byte? a, ← byte? b, ← byte? c, ← byte? d⟩
  | _ => none

end Ipv4

end Sandboxes
