import Sandboxes.Docker.Daemon
import Sandboxes.Resolver

/-!
# Provisioning

Launching, finding and removing containers, in each of the ways that containers can come about. A
container that was created but cannot be started or found afterwards is removed again.
-/

namespace Sandboxes

open Container

/-! ### On the Docker daemon -/

namespace Docker

/-- Looks whether the daemon can be talked to. -/
def connect : Program (Except Failure Unit) := do
  return (← Program.query .findDocker).mapError fun reason =>
    .dockerUnavailable (reason ++ ". Is Docker running?")

/-- Fetches an image unless it is there. -/
def ensureImage (image : String) : Program (Except Failure Unit) := do
  match ← inspectImage image with
  | .ok _ => return .ok ()
  | .error fault =>
    if fault.isMissing then
      return (← pull image).mapError fun fault =>
        .provision ("Error pulling image " ++ image ++ ": " ++ fault.message)
    else
      return .error (.provision ("Failed to inspect image " ++ image ++ ": " ++ fault.message))

/-- Asks for the address of a container. -/
def addressOf (name : String) : Program (Except Failure String) := do
  match ← inspect name with
  | .error fault =>
    if fault.isMissing then return .error (.notFound name)
    else
      return .error
        (.provision ("Failed to inspect container " ++ name ++ ": " ++ fault.message))
  | .ok networks =>
    match networks.reachable? with
    | some address => return .ok address
    | none => return .error (.provision ("Container " ++ name ++ " has no IP address"))

/-- Removes a container. One that is gone already counts as removed. -/
def removeContainer (name : String) : Program (Except Failure Unit) :=
  ExceptT.run do
    ExceptT.mk connect
    match ← ExceptT.lift (remove name) with
    | .ok _ => return ()
    | .error fault =>
      if fault.isMissing then return ()
      else throw (.provision ("Failed to remove container " ++ name ++ ": " ++ fault.message))

/-- Starts a container that was created, and asks for its address. -/
def startContainer (name : String) : Program (Except Failure String) := do
  match ← start name with
  | .ok _ => addressOf name
  | .error fault =>
    return .error (.provision ("Failed to start container " ++ name ++ ": " ++ fault.message))

/-- Starts a container that was created, and removes it if that fails. -/
def startOrDiscard (name : String) : Program (Except Failure String) := do
  match ← startContainer name with
  | .ok host => return .ok host
  | .error failure =>
    let _ ← removeContainer name
    return .error failure

/-- Launches a container: the daemon is asked whether it is there, the image is fetched if need be,
and the container is created and started. -/
def launch (spec : Spec) : Program (Except Failure Endpoint) :=
  ExceptT.run do
    ExceptT.mk connect
    ExceptT.mk do
      return (← ping).mapError fun fault =>
        Failure.dockerUnavailable ("Cannot ping Docker daemon: " ++ fault.message)
    ExceptT.mk (ensureImage spec.image)
    ExceptT.mk do
      return (← create spec.name (.ofSpec spec)).mapError fun fault =>
        Failure.provision ("Failed to create container " ++ spec.name ++ ": " ++ fault.message)
    let host ← ExceptT.mk (startOrDiscard spec.name)
    return { name := some spec.name, host, ownership := .created }

/-- Finds a container. -/
def attach (name : String) : Program (Except Failure Endpoint) :=
  ExceptT.run do
    ExceptT.mk connect
    let host ← ExceptT.mk (addressOf name)
    return { name := some name, host, ownership := .attached }

end Docker

/-! ### In each way -/

namespace Provisioner

/-- Where containers come from under given settings. -/
def ofSettings (s : Settings) : Provisioner :=
  match s.sandboxAddress with
  | some address => fixed address
  | none => docker

/-- Launches a container. Where there is a fixed sandbox, nothing is launched. -/
def launch (p : Provisioner) (spec : Spec) : Program (Except Failure Endpoint) :=
  match p with
  | delegated => Program.query (.launch spec)
  | docker => Docker.launch spec
  | fixed address => do
    return .ok { name := none, host := ← hostFor address, ownership := .external }

/-- Finds a container. A fixed sandbox goes by any name. -/
def attach (p : Provisioner) (name : String) : Program (Except Failure Endpoint) :=
  match p with
  | delegated => Program.query (.attach name)
  | docker => Docker.attach name
  | fixed address => do
    return .ok { name := some name, host := ← hostFor address, ownership := .external }

/-- Removes a container. A fixed sandbox stays. -/
def remove (p : Provisioner) (name : String) : Program (Except Failure Unit) :=
  match p with
  | delegated => Program.query (.remove name)
  | docker => Docker.removeContainer name
  | fixed _ => return .ok ()

end Provisioner

end Sandboxes
