import Sandboxes.Browser
import Sandboxes.Control.Probe
import Sandboxes.Profile
import Sandboxes.Provisioner

/-!
# Sandboxes

What can be done with a handle: operations inside the sandbox, waiting until it is ready, driving its
browser, and destroying it. Once a handle is closed no operation sends anything any more.
-/

namespace Sandboxes.Handle

open Control Container

/-! ### Making handles -/

/-- The container that goes with a sandbox: one that is not managed elsewhere and whose name the
profile owns. -/
def teardownOf (p : Profile) (e : Endpoint) : Option String :=
  match e.ownership with
  | .external => none
  | .created | .attached => e.name.filter p.owns

/-- The handle of that number for an endpoint. -/
def ofEndpoint (p : Profile) (provisioner : Provisioner) (e : Endpoint) (number : Nat) :
    Handle where
  number := number
  id := e.name.getD p.placeholder
  variant := p.variant
  interface := .ofAddress ("http://" ++ e.host ++ ":" ++ toString p.ports.api.toNat) p.limit
  vncUrl := "ws://" ++ e.host ++ ":" ++ toString p.ports.vnc.toNat
  cdpUrl := "http://" ++ e.host ++ ":" ++ toString p.ports.cdp.toNat
  readiness := p.readiness
  provisioner := provisioner
  teardown := teardownOf p e

/-- Makes a handle for an endpoint. -/
def new (p : Profile) (provisioner : Provisioner) (e : Endpoint) : Program Handle := do
  return ofEndpoint p provisioner e (← Program.step .number)

/-! ### Operations -/

/-- The result of every operation on a closed handle. -/
def closedResult (h : Handle) : Envelope :=
  .failure ("Sandbox " ++ h.id ++ " has been destroyed")

/-- Does an operation inside the sandbox. -/
def perform (h : Handle) (o : Operation) : Program Envelope := do
  if ← Program.step (.isClosed h.number) then return h.closedResult
  else h.interface.call (o.plan h.variant) o.content

/-- Fetches a file from the sandbox. -/
def download (h : Handle) (path : String) : Program (Except Failure Bytes) := do
  if ← Program.step (.isClosed h.number) then
    return .error (.download ("sandbox " ++ h.id ++ " has been destroyed"))
  else h.interface.download (Task.fileDownload.plan h.variant) path

/-! ### Readiness -/

/-- Waits until the sandbox is ready, whatever the settings say. -/
def verifyReady (h : Handle) : Program (Except Failure Unit) :=
  h.interface.await (probe h.variant) h.readiness

/-- Waits until the sandbox is ready. Unless the settings are strict, running out of attempts is no
failure. -/
def ensureReady (h : Handle) : Program (Except Failure Unit) := do
  match ← h.verifyReady with
  | .ok _ => return .ok ()
  | .error failure =>
    if failure.isTimeout && !h.readiness.strict then return .ok ()
    else return .error failure

/-! ### Browser and end -/

/-- The browser of the sandbox. -/
def browser (h : Handle) : Browser :=
  .ofAddress h.cdpUrl

/-- Destroys the sandbox: the handle is closed and no longer kept, and its container is removed if
it may be. Tells whether nothing stands in the way any more; a closed handle is left as it is. -/
def destroy (h : Handle) : Program Bool := do
  if ← Program.step (.close h.number) then return true
  else
    Program.step (.forget h.variant h.id)
    match h.teardown with
    | none => return true
    | some name =>
      match ← h.provisioner.remove name with
      | .ok _ => return true
      | .error _ => return false

end Sandboxes.Handle
