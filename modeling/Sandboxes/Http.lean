import Sandboxes.Duration
import Sandboxes.Json.Basic
import Sandboxes.Net.Url
import Sandboxes.Text.Utf8

/-!
# Requests to web servers

What a request says, and what can become of it: the server is not reached, it falls silent before it
has answered, or it answers, with a body that may break off.
-/

namespace Sandboxes.Http

/-- One part of a form. -/
structure Part where
  name : String
  filename : Option String
  mediaType : Option String
  data : Bytes
  deriving DecidableEq, Repr

/-- What a request carries. -/
inductive Content
  | nothing
  | json (body : Json)
  | form (parts : List Part)
  deriving Repr, BEq

/-- A request with the time that the answer may take. -/
structure Request where
  method : String
  url : Net.Url
  content : Content
  limit : Duration
  deriving Repr

/-- What becomes of a request. -/
inductive Outcome
  /-- No connection was opened. -/
  | refused
  /-- The connection ended, or the time ran out, before there was an answer. -/
  | interrupted
  /-- The server answered. There is no body where it could not be read to its end. -/
  | answered (status : Nat) (body : Option Bytes)
  deriving DecidableEq, Repr

end Sandboxes.Http
