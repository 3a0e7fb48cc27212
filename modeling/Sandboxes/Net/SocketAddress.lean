import Sandboxes.Text.Digits
import Sandboxes.Text.Pieces

/-!
# Socket addresses

Where to listen: a host and a port, with a colon between.
-/

namespace Sandboxes.Net

/-- A host and a port. -/
structure SocketAddress where
  host : String
  port : UInt16
  deriving DecidableEq, Repr

namespace SocketAddress

/-- Why a text is no socket address. -/
inductive Fault
  /-- There is no colon. -/
  | noPort
  /-- What follows the last colon is no port. -/
  | badPort
  deriving DecidableEq, Repr

/-- The words for a fault. -/
def Fault.message : Fault → String
  | noPort => "invalid socket address"
  | badPort => "invalid port value"

/-- The socket address of a text. -/
def ofText (text : String) : Except Fault SocketAddress :=
  match Text.splitLast? ':' text.toList with
  | none => .error .noPort
  | some (host, port) =>
    match Text.readNat (2 ^ 16) (String.ofList port) with
    | .ok n => .ok { host := String.ofList host, port := .ofNat n }
    | .error _ => .error .badPort

end SocketAddress

end Sandboxes.Net
