import Sandboxes.Net.Status
import Sandboxes.Text.Utf8

/-!
# Faults of a call

Why a single call to a control interface failed, the words for it, and which faults prove that the
sandbox did not act on the call.
-/

namespace Sandboxes.Control

/-- Why a call failed. -/
inductive Fault
  /-- The address is no URL. -/
  | noUrl
  /-- The URL is not one of a web server. -/
  | notWeb (url : String)
  /-- No connection was opened. -/
  | refused (url : String)
  /-- The connection ended, or the time ran out, before there was an answer. -/
  | interrupted (url : String)
  /-- The body of a successful answer broke off. -/
  | unreadable
  /-- The server answered with a status other than success. -/
  | status (code : Nat) (body : String)
  /-- The body of a successful answer is not what it should be. -/
  | undecodable (reason : String)
  deriving DecidableEq, Repr

namespace Fault

/-- The words for a fault. -/
def message : Fault → String
  | noUrl => "builder error"
  | notWeb url => "builder error for url (" ++ url ++ ")"
  | refused url | interrupted url => "error sending request for url (" ++ url ++ ")"
  | unreadable => "error decoding response body"
  | status code body => "HTTP " ++ Net.statusText code ++ ": " ++ body
  | undecodable reason => "invalid response body: " ++ reason

/-- Whether the fault proves that the sandbox did not act on the call: it was never reached, or it
does not know the route. -/
def provesUnapplied : Fault → Bool
  | noUrl | notWeb _ | refused _ => true
  | status code _ => code = 404 || code = 405 || code = 501
  | interrupted _ | unreadable | undecodable _ => false

/-- The most bytes of a refusing answer's body that are kept. -/
def bodyLimit : Nat := 512

/-- The fault of an answer with that status, whose body counts as empty when it broke off. -/
def ofAnswer (code : Nat) (body : Option Bytes) : Fault :=
  status code (Text.clip bodyLimit (Text.decodeLenient (body.getD [])))

/-- Stands for the reason why a text is no JSON of the wanted form. -/
def malformed : Fault :=
  undecodable "<json>"

end Fault

end Sandboxes.Control
