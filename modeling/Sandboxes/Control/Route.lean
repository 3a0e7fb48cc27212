import Sandboxes.Control.Envelope

/-!
# Routes

A route is a path on a control interface and the form of what is sent there and comes back. Native
shells know sessions, commands and directories by other names, and answer with an output and an error
rather than an envelope.
-/

namespace Sandboxes.Control

/-- The form of request and answer. -/
inductive Shape
  /-- The request as it is; the answer is an envelope. -/
  | envelope
  /-- A native shell. -/
  | nativeShell
  deriving DecidableEq, Repr

/-- An endpoint that an operation can be sent to. -/
structure Route where
  path : String
  shape : Shape
  deriving DecidableEq, Repr

namespace Route

/-- What the route is sent for `body`. -/
def render (r : Route) (body : Json) : Json :=
  match r.shape with
  | .envelope => body
  | .nativeShell =>
    .obj [("command", body.get "command"), ("cwd", body.get "exec_dir"),
      ("session_id", body.get "id")]

/-- The result that the bytes of a successful answer spell. -/
def decode (r : Route) (bytes : Bytes) : Except Fault Envelope :=
  match r.shape with
  | .envelope =>
    match (Json.readRecord? Envelope.memberNames bytes).bind Envelope.ofJson? with
    | some e => .ok e
    | none => .error .malformed
  | .nativeShell =>
    match (Json.read? bytes).map Json.settle with
    | none => .error .malformed
    | some j =>
      if j.isObj then .ok (.ofShell j)
      else .error (.undecodable ("expected an object, got " ++ j.compact))

end Route

/-- Whether an operation may be sent again on another route. -/
inductive Replay
  /-- Sending it twice does no harm. -/
  | always
  /-- Only after a fault that proves it unapplied. -/
  | unsent
  deriving DecidableEq, Repr

/-- The routes of an operation, in the order in which they are tried. -/
structure Plan where
  /-- The operation's name in failures. -/
  label : String
  replay : Replay
  primary : Route
  fallback : Option Route
  deriving DecidableEq, Repr

namespace Plan

/-- The words for a failure of the primary route, when no other one is tried. -/
def failed (p : Plan) (first : Fault) : String :=
  p.label ++ " failed: " ++ first.message

/-- Whether the fallback may be tried after a fault of the primary route. -/
def allows (p : Plan) (first : Fault) : Bool :=
  p.replay = .always || first.provesUnapplied

/-- Tries the routes of a plan until one answers. The fallback is tried at most once, and only where
the plan allows it. -/
def run {m : Type → Type} [Monad m] {α : Type} (p : Plan) (call : Route → m (Except Fault α)) :
    m (Except String α) := do
  match ← call p.primary with
  | .ok a => return .ok a
  | .error first =>
    match p.fallback with
    | none => return .error (p.failed first)
    | some fallback =>
      if p.allows first then
        match ← call fallback with
        | .ok a => return .ok a
        | .error second =>
          return .error (p.failed first ++ "; fallback: " ++ second.message)
      else
        return .error
          (p.failed first ++ " (fallback skipped: request may already have been applied)")

end Plan

end Sandboxes.Control
