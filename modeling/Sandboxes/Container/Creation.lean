import Sandboxes.Container.Spec
import Sandboxes.Json.Basic

/-!
# Creation requests

What the Docker daemon is told to create: a specification in the daemon's terms, in which lists
without elements are left out. Every published port is exposed, and bound to a host port of the
daemon's choice.
-/

namespace Sandboxes.Container

/-- A port of the host. Empty texts leave the choice to the daemon. -/
structure PortBinding where
  hostIp : String
  hostPort : String
  deriving DecidableEq, Repr

/-- How a container relates to its host. -/
structure HostSettings where
  binds : Option (List String)
  portBindings : Option (List (String × List PortBinding))
  securityOptions : Option (List String)
  extraHosts : Option (List String)
  sharedMemory : Option Int
  networkMode : Option String
  autoRemove : Bool
  deriving DecidableEq, Repr

/-- A creation request. -/
structure Creation where
  image : String
  env : List String
  exposedPorts : Option (List String)
  healthCheck : Option HealthCheck
  host : HostSettings
  deriving DecidableEq, Repr

namespace Creation

/-- Puts a port into an ascending list, unless it is there. -/
def insertPort (port : UInt16) : List UInt16 → List UInt16
  | [] => [port]
  | p :: ps =>
    if port < p then port :: p :: ps
    else if port = p then p :: ps
    else p :: insertPort port ps

/-- A set of ports in ascending order. -/
def portSet (ports : List UInt16) : List UInt16 :=
  ports.foldr insertPort []

/-- The daemon's name of a port. -/
def portName (port : UInt16) : String :=
  toString port.toNat ++ "/tcp"

/-- A list, if it has elements. -/
def nonEmpty {α : Type} : List α → Option (List α)
  | [] => none
  | a :: as => some (a :: as)

/-- The request for a container of that specification. -/
def ofSpec (s : Spec) : Creation :=
  let ports := (portSet s.publish).map portName
  { image := s.image
    env := s.env.assignments
    exposedPorts := nonEmpty ports
    healthCheck := s.healthCheck
    host := {
      binds := nonEmpty s.binds
      portBindings := nonEmpty (ports.map fun port => (port, [⟨"", ""⟩]))
      securityOptions := nonEmpty s.securityOptions
      extraHosts := nonEmpty s.extraHosts
      sharedMemory := s.sharedMemory
      networkMode := s.network
      autoRemove := s.autoRemove } }

/-! ### In JSON -/

/-- A member, unless its value is absent. -/
def member {α : Type} (name : String) (f : α → Json) : Option α → Members
  | none => []
  | some a => [(name, f a)]

/-- A whole number. -/
def whole (i : Int) : Json := .num (.int i)

/-- Bindings of a port. -/
def bindings (ports : List PortBinding) : Json :=
  .arr (ports.map fun p => .obj [("HostIp", .str p.hostIp), ("HostPort", .str p.hostPort)])

/-- A health check. -/
def healthDocument (h : HealthCheck) : Json :=
  .obj [("Interval", whole h.interval), ("Retries", whole h.retries),
    ("Test", Json.ofStrings h.test), ("Timeout", whole h.timeout)]

/-- The host settings. -/
def hostDocument (h : HostSettings) : Json :=
  .obj ([("AutoRemove", .bool h.autoRemove)] ++
    member "Binds" Json.ofStrings h.binds ++
    member "ExtraHosts" Json.ofStrings h.extraHosts ++
    member "NetworkMode" .str h.networkMode ++
    member "PortBindings" (fun ports => .obj (ports.map fun (name, bs) => (name, bindings bs)))
      h.portBindings ++
    member "SecurityOpt" Json.ofStrings h.securityOptions ++
    member "ShmSize" whole h.sharedMemory)

/-- The document that the daemon is sent. -/
def toJson (c : Creation) : Json :=
  .obj ([("Env", Json.ofStrings c.env)] ++
    member "ExposedPorts" (fun ports => .obj (ports.map (·, .obj []))) c.exposedPorts ++
    member "Healthcheck" healthDocument c.healthCheck ++
    [("HostConfig", hostDocument c.host), ("Image", .str c.image)])

end Creation

end Sandboxes.Container
