import Sandboxes.Control.Call

/-!
# Readiness

A sandbox tells on some path of its control interface whether it is ready. It is asked again and
again, with a pause between, until it is or the attempts run out; an answer that cannot be had or
read counts as "not yet".
-/

namespace Sandboxes.Control

/-- How a sandbox tells that it is ready. -/
inductive Probe
  /-- Its status is healthy. -/
  | health (path : String)
  /-- It has services, and all of them run. -/
  | supervisor (path : String)
  deriving DecidableEq, Repr

namespace Probe

/-- The path that is asked. -/
def path : Probe → String
  | health path | supervisor path => path

/-- Whether the service runs. -/
def isRunning (service : Json) : Bool :=
  (service.get "statename").string? = some "RUNNING"

/-- Whether the document says that the sandbox is ready. -/
def isReady (p : Probe) (document : Json) : Bool :=
  match p with
  | health _ => (document.get "status").string? = some "healthy"
  | supervisor _ =>
    match document.get "data" with
    | .arr services => !services.isEmpty && services.all isRunning
    | _ => false

end Probe

/-- How sandboxes of a variant tell that they are ready. -/
def probe : Variant → Probe
  | .legacy => .supervisor "/api/v1/supervisor/status"
  | .aio => .health "/health"

namespace Interface

/-- Asks once whether the sandbox is ready. -/
def isReady (i : Interface) (p : Probe) (r : Readiness) : Program Bool := do
  match ← i.document p.path r.attemptLimit with
  | .ok document => return p.isReady document
  | .error _ => return false

/-- Asks up to that many times, with a pause between each two attempts. -/
def poll (i : Interface) (p : Probe) (r : Readiness) : (attempts : Nat) → Program Bool
  | 0 => return false
  | left + 1 => do
    if ← i.isReady p r then return true
    else
      if left ≠ 0 then Program.query (.pause r.interval)
      poll i p r left

/-- Waits until the sandbox is ready. -/
def await (i : Interface) (p : Probe) (r : Readiness) : Program (Except Failure Unit) := do
  if ← i.poll p r r.attempts then return .ok ()
  else return .error (.exhausted r.attempts r.interval)

end Interface

end Sandboxes.Control
